import Mathlib.Data.Finset.Card
import Mathlib.SetTheory.Cardinal.Finite
import Std.Data.ExtTreeMap

/-!
# Tables that are written key by key

A table that was written to entry by entry holds under each key what was written for the key last
(`getElem?_written`). So it is determined by the last entries of all keys, what is counted in it
is counted by key (`countP_toList_eq_card`), and a write moves a count by the new value of its key
and by the old one (`countP_toList_insert`).
-/

namespace Coordination

section

variable {α β : Type}

/-- An element of a list that is one longer than another is the last one or was in the other list,
with one less behind it. -/
theorem concat_eq_append_cons_iff {l before after : List α} {x y : α} :
    l ++ [x] = before ++ y :: after ↔ (l = before ∧ x = y ∧ after = []) ∨
      ∃ rest, l = before ++ y :: rest ∧ after = rest ++ [x] := by
  constructor
  · intro h
    rcases List.eq_nil_or_concat after with rfl | ⟨rest, last, rfl⟩
    · obtain ⟨hl, hx⟩ := List.append_inj' h rfl
      exact .inl ⟨hl, (List.cons.inj hx).1, rfl⟩
    · rw [List.concat_eq_append, ← List.cons_append, ← List.append_assoc] at h
      obtain ⟨hl, hx⟩ := List.append_inj' h rfl
      exact .inr ⟨rest, hl, by rw [List.concat_eq_append, hx]⟩
  · rintro (⟨rfl, rfl, rfl⟩ | ⟨rest, rfl, rfl⟩)
    · rfl
    · rw [List.append_assoc, List.cons_append]

/-- What was written for the key last. -/
def lastFor [BEq α] (entries : List (α × β)) (k : α) : Option β :=
  ((entries.filter fun e => e.1 == k).getLast?).map Prod.snd

theorem lastFor_concat [BEq α] (entries : List (α × β)) (e : α × β) (k : α) :
    lastFor (entries ++ [e]) k = if e.1 == k then some e.2 else lastFor entries k := by
  unfold lastFor
  rw [List.filter_append]
  cases h : e.1 == k with
  | true => simp [h]
  | false => simp [h]

theorem lastFor_eq_none [BEq α] [LawfulBEq α] {entries : List (α × β)} {k : α}
    (h : ∀ v, (k, v) ∉ entries) : lastFor entries k = none := by
  have hnone : (entries.filter fun e => e.1 == k) = [] := by
    rw [List.filter_eq_nil_iff]
    rintro ⟨k', v⟩ he hk
    obtain rfl := eq_of_beq hk
    exact h v he
  rw [lastFor, hnone]
  rfl

variable [Ord α] [Std.TransOrd α]

/-- The table after entries were written into an empty one, one after the other. -/
def written (entries : List (α × β)) : Std.ExtTreeMap α β :=
  entries.foldl (fun t e => t.insert e.1 e.2) ∅

theorem written_concat (entries : List (α × β)) (e : α × β) :
    written (entries ++ [e]) = (written entries).insert e.1 e.2 :=
  List.foldl_append

theorem size_written_le (entries : List (α × β)) : (written entries).size ≤ entries.length := by
  induction entries using List.reverseRecOn with
  | nil => exact Nat.le_refl _
  | append_singleton entries e ih =>
    rw [written_concat, List.length_append, List.length_singleton]
    exact Std.ExtTreeMap.size_insert_le.trans (Nat.add_le_add_right ih 1)

/-- Entries that are found in a history: what comes last may add one. -/
theorem written_filterMap_concat {γ : Type} (f : γ → Option (α × β)) (history : List γ) (c : γ) :
    written ((history ++ [c]).filterMap f) =
      (f c).elim (written (history.filterMap f)) fun e =>
        (written (history.filterMap f)).insert e.1 e.2 := by
  rw [List.filterMap_append]
  cases hc : f c with
  | none => simp [hc]
  | some e => simp [hc, written_concat]

variable [Std.LawfulEqOrd α]

theorem getElem?_written [BEq α] [LawfulBEq α] (entries : List (α × β)) (k : α) :
    (written entries)[k]? = lastFor entries k := by
  induction entries using List.reverseRecOn with
  | nil => exact Std.ExtTreeMap.getElem?_empty
  | append_singleton entries e ih =>
    rw [written_concat, lastFor_concat, Std.ExtTreeMap.getElem?_insert, ih]
    by_cases hk : e.1 = k
    · simp [hk]
    · simp [hk]

theorem written_eq_of_lastFor [BEq α] [LawfulBEq α] {entries others : List (α × β)}
    (h : ∀ k, lastFor entries k = lastFor others k) : written entries = written others := by
  apply Std.ExtTreeMap.ext_getElem?
  intro k
  rw [getElem?_written, getElem?_written, h]

theorem nodup_toList {t : Std.ExtTreeMap α β} : t.toList.Nodup :=
  Std.ExtTreeMap.distinct_keys_toList.imp fun h e => h (by rw [e]; exact Std.ReflOrd.compare_self)

theorem toList_insert_perm {t : Std.ExtTreeMap α β} {k : α} {v : β} (h : t[k]? = none) :
    (t.insert k v).toList.Perm ((k, v) :: t.toList) := by
  have hnew : (k, v) ∉ t.toList := by
    simp [Std.ExtTreeMap.mem_toList_iff_getElem?_eq_some, h]
  rw [List.perm_ext_iff_of_nodup nodup_toList (List.nodup_cons.2 ⟨hnew, nodup_toList⟩)]
  rintro ⟨k', v'⟩
  rw [List.mem_cons, Std.ExtTreeMap.mem_toList_iff_getElem?_eq_some,
    Std.ExtTreeMap.mem_toList_iff_getElem?_eq_some, Std.ExtTreeMap.getElem?_insert]
  by_cases hk : k = k'
  · subst hk
    simp [h, eq_comm]
  · simp [hk, Ne.symm hk]

/-- A write counts the new value of its key and no longer the old one. -/
theorem countP_toList_insert (t : Std.ExtTreeMap α β) (k : α) (v : β) (p : β → Bool) :
    (t.insert k v).toList.countP (fun e => p e.2) + (if t[k]?.any p then 1 else 0) =
      t.toList.countP (fun e => p e.2) + if p v then 1 else 0 := by
  have hadd (u : Std.ExtTreeMap α β) (hu : u[k]? = none) (w : β) :
      (u.insert k w).toList.countP (fun e => p e.2) =
        u.toList.countP (fun e => p e.2) + if p w then 1 else 0 := by
    rw [(toList_insert_perm hu).countP_eq, List.countP_cons]
  cases hk : t[k]? with
  | none => rw [hadd t hk v, Option.any_none, if_neg Bool.false_ne_true, Nat.add_zero]
  | some old =>
    -- Both tables are the one without the key, with one entry more.
    have hrest : (t.erase k)[k]? = none := by simp
    have hold : t = (t.erase k).insert k old := by
      apply Std.ExtTreeMap.ext_getElem?
      intro k'
      rw [Std.ExtTreeMap.getElem?_insert, Std.ExtTreeMap.getElem?_erase]
      split
      · rename_i heq
        rw [← Std.LawfulEqOrd.eq_of_compare heq, hk]
      · rfl
    have hnew : t.insert k v = (t.erase k).insert k v := by
      apply Std.ExtTreeMap.ext_getElem?
      intro k'
      rw [Std.ExtTreeMap.getElem?_insert, Std.ExtTreeMap.getElem?_insert,
        Std.ExtTreeMap.getElem?_erase]
      split <;> rfl
    have hcount := hadd _ hrest old
    rw [← hold] at hcount
    rw [hnew, hadd _ hrest v, hcount, Option.any_some]
    omega

/-- As many entries pass a test as there are keys with an entry that passes it. -/
theorem countP_toList_eq_card (t : Std.ExtTreeMap α β) (p : β → Bool) :
    t.toList.countP (fun e => p e.2) = Nat.card { k : α // ∃ v, t[k]? = some v ∧ p v = true } := by
  classical
  have hnodup : ((t.toList.filter fun e => p e.2).map Prod.fst).Nodup := by
    rw [List.Nodup, List.pairwise_map]
    refine (Std.ExtTreeMap.distinct_keys_toList.filter _).imp fun h e => h ?_
    rw [e]
    exact Std.ReflOrd.compare_self
  have hmem (k : α) : k ∈ ((t.toList.filter fun e => p e.2).map Prod.fst).toFinset ↔
      ∃ v, t[k]? = some v ∧ p v = true := by
    simp [Std.ExtTreeMap.mem_toList_iff_getElem?_eq_some]
  rw [Nat.subtype_card _ hmem, List.toFinset_card_of_nodup hnodup, List.length_map,
    List.countP_eq_length_filter]

end

end Coordination
