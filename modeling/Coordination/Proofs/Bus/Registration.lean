import Coordination.Proofs.Bus.Decision
import Coordination.Proofs.Table
import Coordination.Proofs.Text.Order

/-!
# Registries as tables

A registry is the table that its registrations write (`handlers_ofList`): under each channel there
is the handler that was registered last, the channels are listed in ascending order, and
registrations for different channels may change places (`Reordered.ofList_eq`).
-/

namespace Coordination.Registry

variable {ω : Type} {entries others : List (String × Handler ω)} {channel : String}

/-- Two rows of registrations that have the same ones for each channel, in the same order. -/
def Reordered (entries others : List (String × Handler ω)) : Prop :=
  ∀ channel, entries.filter (fun e => e.1 == channel) = others.filter fun e => e.1 == channel

/-- Neighbours for different channels may change places. -/
theorem reordered_swap (before after : List (String × Handler ω)) {e e' : String × Handler ω}
    (hne : e.1 ≠ e'.1) :
    Reordered (before ++ e :: e' :: after) (before ++ e' :: e :: after) := by
  intro channel
  rw [List.filter_append, List.filter_append]
  congr 1
  by_cases he : e.1 = channel
  · have he' : e'.1 ≠ channel := fun h => hne (he.trans h.symm)
    simp [he, he']
  · simp [List.filter_cons, he]

theorem handlers_ofList (entries : List (String × Handler ω)) :
    (ofList entries).handlers = written entries :=
  (List.foldl_hom handlers fun _ _ => rfl).symm

theorem handler?_eq_some_iff {h : Handler ω} :
    (ofList entries).handler? channel = some h ↔ ∃ n, IsLastFor entries channel n h := by
  constructor
  · intro hfound
    by_cases hmem : channel ∈ entries.map Prod.fst
    · obtain ⟨n, h', hlast⟩ := exists_isLastFor hmem
      obtain rfl : h' = h := Option.some.inj (hlast.handler?.symm.trans hfound)
      exact ⟨n, hlast⟩
    · rw [handler?_of_notMem hmem] at hfound
      cases hfound
  · rintro ⟨n, hlast⟩
    exact hlast.handler?

theorem handler?_eq_none_iff :
    (ofList entries).handler? channel = none ↔ channel ∉ entries.map Prod.fst := by
  refine ⟨fun hnone hmem => ?_, handler?_of_notMem⟩
  obtain ⟨n, h, hlast⟩ := exists_isLastFor hmem
  rw [hlast.handler?] at hnone
  cases hnone

theorem mem_channels_ofList :
    channel ∈ (ofList entries).channels ↔ channel ∈ entries.map Prod.fst := by
  rw [mem_channels, Option.isSome_iff_ne_none, ne_eq, handler?_eq_none_iff, not_not]

theorem pairwise_channels (r : Registry ω) : r.channels.Pairwise (· < ·) :=
  r.handlers.ordered_keys.imp compareOfLessAndEq_eq_lt.1

theorem Reordered.ofList_eq (h : Reordered entries others) : ofList entries = ofList others := by
  have hlast (channel : String) : lastFor entries channel = lastFor others channel := by
    rw [lastFor, lastFor, h channel]
  have hhandlers : (ofList entries).handlers = (ofList others).handlers := by
    rw [handlers_ofList, handlers_ofList, written_eq_of_lastFor hlast]
  exact congrArg Registry.mk hhandlers

/-! ## Main statement -/

/-- The registry after any registrations, one after the other. A channel's handler is the one that
was registered for it last, and there is none if none was registered. The channels that are listed
are those with a registration, each once, in the order of texts and of their bytes, and as many as
the size says. Registrations for different channels may change places without any change to the
registry. -/
theorem last_registration_wins (entries : List (String × Handler ω)) :
    let r := ofList entries
    (∀ channel h, r.handler? channel = some h ↔ ∃ n, IsLastFor entries channel n h) ∧
    (∀ channel, r.handler? channel = none ↔ channel ∉ entries.map Prod.fst) ∧
    r.channels.Pairwise (fun c c' => c < c' ∧ c.toUTF8.data.toList < c'.toUTF8.data.toList) ∧
    (∀ channel, channel ∈ r.channels ↔ channel ∈ entries.map Prod.fst) ∧
    r.size = r.channels.length ∧
    ∀ others, Reordered entries others → ofList others = r := by
  intro r
  refine ⟨fun _ _ => handler?_eq_some_iff, fun _ => handler?_eq_none_iff, ?_,
    fun _ => mem_channels_ofList, r.length_channels.symm, ?_⟩
  · exact r.pairwise_channels.imp fun h => ⟨h, Text.toUTF8_lt h⟩
  · exact fun _ h => h.ofList_eq.symm

/-- A channel that was registered twice, with another one between or before. -/
theorem last_registration_wins_between :
    let named (name : String) : Handler Unit := ⟨name, fun _ w => { world := w }⟩
    let entries := [("refx:restrict", named "first"), ("refx:announce", named "announce"),
      ("refx:restrict", named "second")]
    let others := [("refx:announce", named "announce"), ("refx:restrict", named "first"),
      ("refx:restrict", named "second")]
    Reordered entries others ∧ ofList others = ofList entries ∧
    (ofList entries).channels = ["refx:announce", "refx:restrict"] ∧ (ofList entries).size = 2 ∧
    ((ofList entries).handler? "refx:restrict").map Handler.name = some "second" := by
  intro named entries others
  have hreordered : Reordered entries others :=
    reordered_swap [] [("refx:restrict", named "second")] (by decide)
  obtain ⟨-, -, -, -, hsize, hreorder⟩ := last_registration_wins entries
  have hchannels : (ofList entries).channels = ["refx:announce", "refx:restrict"] := by
    decide +kernel
  refine ⟨hreordered, hreorder others hreordered, hchannels, ?_, by decide +kernel⟩
  rw [hsize, hchannels]
  rfl

end Coordination.Registry
