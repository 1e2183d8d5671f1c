import Coordination.Proofs.Json.Value

/-!
# Records survive their objects

A record is written as an object of its fields in their order. Its members are read one by one
from left to right: each fills one field that was not set before, and the draft that is full in
the end is the record (`reads_writeObject`).

Whatever form a text has, the draft behind a record that is read comes about in the same way:
from the empty draft, by values that its fields have read. So what the empty draft has and each
field keeps, this draft has (`Schema.exists_draft_of_read`).
-/

namespace Coordination.Json

/-! ## The text of an object -/

/-- What stands behind a member: the other members, each with a comma in front, and the brace. -/
def afterMember : List (String × String) → List Char
  | [] => ['\x7d']
  | (name, value) :: members =>
    ',' :: ((writeString name).toList ++ ':' :: (value.toList ++ afterMember members))

theorem endsNumber_afterMember (members : List (String × String)) (rest : List Char) :
    EndsNumber (afterMember members ++ rest) := by
  cases members with
  | nil => exact .cons (by decide) rest
  | cons member members => exact .cons (by decide) _

theorem length_le_afterMember (members : List (String × String)) :
    members.length ≤ (afterMember members).length := by
  induction members with
  | nil => exact Nat.zero_le _
  | cons member members ih =>
    simp only [afterMember, List.length_cons, List.length_append]
    omega

theorem toList_writeObject (name value : String) (members : List (String × String)) :
    (writeObject ((name, value) :: members)).toList =
      '\x7b' :: ((writeString name).toList ++ ':' :: (value.toList ++ afterMember members)) := by
  have hjoin : ∀ first : String, (",".intercalate (first :: members.map
      fun member => writeString member.1 ++ ":" ++ member.2)).toList ++ ['\x7d'] =
      first.toList ++ afterMember members := by
    induction members with
    | nil =>
      intro first
      rw [List.map_nil, String.intercalate_singleton]
      rfl
    | cons member members ih =>
      intro first
      rw [List.map_cons, String.intercalate_cons_cons, String.toList_append, String.toList_append,
        List.append_assoc, ih]
      simp [afterMember]
  have hobject := hjoin (writeString name ++ ":" ++ value)
  rw [String.toList_append, String.toList_append, List.append_assoc, List.append_assoc] at hobject
  rw [writeObject, String.toList_append, String.toList_append, List.append_assoc]
  exact congrArg ('\x7b' :: ·) hobject

/-! ## Members that fill a draft -/

variable {ρ α : Type}

/-- The members are texts of values for the fields, one for each in their order, and put one after
the other they make one draft of another. -/
inductive Fills : List (Field ρ) → ρ → List (String × String) → ρ → Prop
  | nil (d : ρ) : Fills [] d [] d
  | cons {f : Field ρ} {fields : List (Field ρ)} {value : String} {put : ρ → ρ} {d d' : ρ}
      {members : List (String × String)} (hset : f.isSet d = false)
      (hread : Reads f.read value put) (hfills : Fills fields (put d) members d') :
      Fills (f :: fields) d ((f.name, value) :: members) d'

theorem reads_field {name text : String} {read : Reader α} {get : ρ → Option α}
    {set : α → ρ → ρ} {optional : Bool} {a : α} (h : Reads read text a) :
    Reads (Field.of name read get set optional).read text (set a) := by
  intro rest hrest
  show (read (text.toList ++ rest)).map _ = _
  rw [h rest hrest]
  rfl

/-- A field is found by its name. -/
theorem find?_name {fields : List (Field ρ)} (hnodup : (fields.map (·.name)).Nodup) {f : Field ρ}
    (hf : f ∈ fields) : fields.find? (·.name == f.name) = some f := by
  induction fields with
  | nil => cases hf
  | cons g fields ih =>
    rw [List.map_cons, List.nodup_cons] at hnodup
    rcases List.mem_cons.1 hf with rfl | hf
    · exact List.find?_cons_of_pos (beq_self_eq_true f.name)
    · have hne : g.name ≠ f.name := fun heq =>
        hnodup.1 (heq ▸ List.mem_map_of_mem hf)
      rw [List.find?_cons_of_neg (by simpa using hne), ih hnodup.2 hf]

section

variable {s : Schema ρ α}

theorem readMember_of_reads (hnodup : (s.fields.map (·.name)).Nodup) {f : Field ρ}
    (hf : f ∈ s.fields) {d : ρ} (hset : f.isSet d = false) {value : String} {put : ρ → ρ}
    (hread : Reads f.read value put) {rest : List Char} (hrest : EndsNumber rest) :
    s.readMember f.name d (':' :: (value.toList ++ rest)) = .ok (put d, rest) := by
  rw [Schema.readMember, find?_name hnodup hf]
  dsimp only
  rw [hset, if_neg (by decide)]
  show (f.read (value.toList ++ rest)).map _ = _
  rw [hread rest hrest]
  rfl

/-- Members that fill the draft of a record are read as the record. -/
theorem readMembers_of_fills (hnodup : (s.fields.map (·.name)).Nodup) {fields : List (Field ρ)}
    {d d' : ρ} {name value : String} {members : List (String × String)}
    (hfills : Fills fields d ((name, value) :: members) d') (hfields : ∀ f ∈ fields, f ∈ s.fields)
    {a : α} (hfinish : s.finish d' = .ok a) {fuel : Nat} (hfuel : members.length < fuel)
    (rest : List Char) :
    s.readMembers fuel d (name.toList.flatMap escapeChar ++
      '"' :: ':' :: (value.toList ++ (afterMember members ++ rest))) = .ok (a, rest) := by
  induction members generalizing fields d name value fuel with
  | nil =>
    obtain ⟨fuel, rfl⟩ := Nat.exists_eq_add_one_of_ne_zero (Nat.ne_zero_of_lt hfuel)
    cases hfills with
    | cons hset hread hfills =>
      cases hfills
      have hmember := readMember_of_reads hnodup (hfields _ List.mem_cons_self) hset hread
        (endsNumber_afterMember [] rest)
      rw [Schema.readMembers, readString_flatMap]
      dsimp only
      rw [hmember]
      show (s.finish _).map (·, rest) = _
      rw [hfinish]
      rfl
  | cons member members ih =>
    obtain ⟨fuel, rfl⟩ := Nat.exists_eq_add_one_of_ne_zero (Nat.ne_zero_of_lt hfuel)
    obtain ⟨nextName, nextValue⟩ := member
    cases hfills with
    | cons hset hread hfills =>
      have hmember := readMember_of_reads hnodup (hfields _ List.mem_cons_self) hset hread
        (endsNumber_afterMember ((nextName, nextValue) :: members) rest)
      have hnext := ih hfills (fun f hf => hfields f (List.mem_cons_of_mem _ hf))
        (Nat.lt_of_succ_lt_succ hfuel)
      rw [Schema.readMembers, readString_flatMap]
      dsimp only
      rw [hmember]
      have htext : afterMember ((nextName, nextValue) :: members) ++ rest =
          ',' :: '"' :: (nextName.toList.flatMap escapeChar ++
            '"' :: ':' :: (nextValue.toList ++ (afterMember members ++ rest))) := by
        rw [afterMember, List.cons_append, List.append_assoc, toList_writeString_append]
        simp
      rw [htext]
      exact hnext

/-- A record whose members fill its draft is read from its object. -/
theorem reads_writeObject (hnodup : (s.fields.map (·.name)).Nodup)
    {members : List (String × String)} {d : ρ} (hfills : Fills s.fields s.empty members d) {a : α}
    (hfinish : s.finish d = .ok a) : Reads s.read (writeObject members) a := by
  intro rest _
  cases members with
  | nil =>
    generalize hfields : s.fields = fields at hfills
    cases hfills
    show (s.finish s.empty).map (·, rest) = _
    rw [hfinish]
    rfl
  | cons member members =>
    obtain ⟨name, value⟩ := member
    let inner := name.toList.flatMap escapeChar ++
      '"' :: ':' :: (value.toList ++ (afterMember members ++ rest))
    have hfuel : members.length < inner.length + 1 := by
      have hlength := length_le_afterMember members
      simp only [inner, List.length_append, List.length_cons]
      omega
    have htext : (writeObject ((name, value) :: members)).toList ++ rest =
        '\x7b' :: '"' :: inner := by
      rw [toList_writeObject, List.cons_append, List.append_assoc, toList_writeString_append]
      simp [inner]
    rw [htext]
    exact readMembers_of_fills hnodup hfills (fun f hf => hf) hfinish hfuel rest

theorem decode_of_reads {read : Reader α} {text : String} {a : α} (h : Reads read text a) :
    decode read text = .ok a := by
  have hread := h [] .nil
  rw [List.append_nil] at hread
  rw [decode, hread]
  rfl

theorem exists_read_of_decode {read : Reader α} {text : String} {a : α}
    (h : decode read text = .ok a) : ∃ rest, read text.toList = .ok (a, rest) := by
  unfold decode at h
  split at h
  · cases h
  · rename_i hread
    split at h
    · rw [← Except.ok.inj h]
      exact ⟨_, hread⟩
    · cases h

/-! ## What every draft has -/

/-- What the field reads is put into a draft without loss of a property. -/
def Field.Keeps (P : ρ → Prop) (f : Field ρ) : Prop :=
  ∀ cs put rest, f.read cs = .ok (put, rest) → ∀ d, P d → P (put d)

theorem Field.Keeps.of {P : ρ → Prop} {name : String} {read : Reader α} {get : ρ → Option α}
    {set : α → ρ → ρ} {optional : Bool}
    (h : ∀ cs a rest, read cs = .ok (a, rest) → ∀ d, P d → P (set a d)) :
    (Field.of name read get set optional).Keeps P := by
  intro cs put rest hread
  obtain ⟨⟨a, _⟩, ha, heq⟩ := exists_of_map_eq_ok hread
  cases heq
  exact h cs a rest ha

/-- A field that has no part in a property keeps it, whatever is read. -/
theorem Field.Keeps.of_set {P : ρ → Prop} {name : String} {read : Reader α} {get : ρ → Option α}
    {set : α → ρ → ρ} {optional : Bool} (h : ∀ a d, P d → P (set a d)) :
    (Field.of name read get set optional).Keeps P :=
  .of fun _ a _ _ => h a

namespace Schema

variable {P : ρ → Prop} {d d' : ρ} {a : α} {cs rest : List Char}

theorem build_of_finish (h : s.finish d = .ok a) : s.build d = some a := by
  unfold finish at h
  split at h
  · cases h
  · split at h
    · rename_i hbuild
      rw [hbuild, Except.ok.inj h]
    · cases h

/-- A member sets a field or is passed over. -/
theorem keeps_readMember (hkeeps : ∀ f ∈ s.fields, f.Keeps P) {key : String}
    (h : s.readMember key d cs = .ok (d', rest)) (hd : P d) : P d' := by
  unfold readMember at h
  dsimp only at h
  split at h
  · rename_i f hfind
    split at h
    · cases h
    · split at h
      · cases h
      · obtain ⟨⟨put, _⟩, hput, heq⟩ := exists_of_map_eq_ok h
        cases heq
        exact hkeeps f (List.mem_of_find?_eq_some hfind) _ put _ hput d hd
  · split at h
    · cases h
    · obtain ⟨_, -, heq⟩ := exists_of_map_eq_ok h
      cases heq
      exact hd

theorem exists_draft_of_readMembers (hkeeps : ∀ f ∈ s.fields, f.Keeps P) (fuel : Nat)
    (h : s.readMembers fuel d cs = .ok (a, rest)) (hd : P d) :
    ∃ d', P d' ∧ s.build d' = some a := by
  induction fuel generalizing d cs with
  | zero => cases h
  | succ fuel ih =>
    unfold readMembers at h
    split at h
    · cases h
    · split at h
      · cases h
      · rename_i hmember
        have hnext := keeps_readMember hkeeps hmember hd
        split at h
        · cases h
        · obtain ⟨_, hfinish, heq⟩ := exists_of_map_eq_ok h
          cases heq
          exact ⟨_, hnext, build_of_finish hfinish⟩
        · split at h
          · cases h
          · exact ih h hnext
          · cases h
        · cases h

theorem keeps_readElements (fields : List (Field ρ)) (hkeeps : ∀ f ∈ fields, f.Keeps P)
    {count : Nat} (h : s.readElements count d fields cs = .ok (d', rest)) (hd : P d) : P d' := by
  induction fields generalizing count d cs with
  | nil =>
    rw [readElements] at h
    obtain ⟨rfl, -⟩ := Prod.mk.inj (Except.ok.inj h)
    exact hd
  | cons f fields ih =>
    have hone : ∀ {cs}, readElements.readOne s count d f fields cs = .ok (d', rest) → P d' := by
      intro cs h
      unfold readElements.readOne at h
      split at h
      · cases h
      · rename_i hread
        exact ih (fun g hg => hkeeps g (List.mem_cons_of_mem f hg)) h
          (hkeeps f List.mem_cons_self _ _ _ hread d hd)
    unfold readElements at h
    split at h
    · cases h
    · cases h
    · split at h
      · cases h
      · split at h
        · cases h
        · cases h
        · exact hone h
    · split at h
      · exact hone h
      · cases h

/-- A record that is read has a draft with every property that the empty draft has and the fields
keep. -/
theorem exists_draft_of_read (hempty : P s.empty) (hkeeps : ∀ f ∈ s.fields, f.Keeps P)
    (h : s.read cs = .ok (a, rest)) : ∃ d, P d ∧ s.build d = some a := by
  unfold read at h
  split at h
  · unfold readObject at h
    split at h
    · cases h
    · obtain ⟨_, hfinish, heq⟩ := exists_of_map_eq_ok h
      cases heq
      exact ⟨_, hempty, build_of_finish hfinish⟩
    · exact exists_draft_of_readMembers hkeeps _ h hempty
    · cases h
  · unfold readArray at h
    split at h
    · cases h
    · rename_i helements
      split at h
      · cases h
      · rename_i hfinish
        split at h
        · cases h
        · obtain ⟨rfl, -⟩ := Prod.mk.inj (Except.ok.inj h)
          exact ⟨_, keeps_readElements s.fields hkeeps helements hempty,
            build_of_finish hfinish⟩
        · cases h
  · obtain ⟨_, -, htake⟩ := found_of_readWith h
    cases htake

end Schema

end

end Coordination.Json
