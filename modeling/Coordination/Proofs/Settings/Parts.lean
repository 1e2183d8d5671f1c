import Coordination.Service.Assembly
import Coordination.Settings.Validation
import Mathlib.Data.List.DropRight

/-!
# What valid settings make

Valid settings have a positive wait, a prefix without blanks and no limit of zero, so the bus and
the fan-out are made as they are configured. Their performance URL is not empty, but it may consist
of slashes. The client drops the slashes at the end of the URL before it looks whether anything is
left, so it can be made exactly if some other character is in it (`parts_of_valid`).
-/

namespace Coordination

/-! ## The endpoint -/

namespace ComputeConfig

variable (c : ComputeConfig)

/-- The base URL without the slashes at its end. -/
structure IsBase (base : String) : Prop where
  eq : ∃ n, c.baseUrl = base ++ String.ofList (List.replicate n '/')
  last : base.toList.getLast? ≠ some '/'

/-- The characters that are left of the base URL. -/
def trimmed : List Char := c.baseUrl.toList.rdropWhile (· == '/')

theorem endpoint_eq : c.endpoint =
    if c.trimmed.isEmpty then .error (.config "empty base url")
    else .ok (String.ofList c.trimmed ++ "/calculate") := rfl

theorem isBase_trimmed : c.IsBase (String.ofList c.trimmed) where
  eq := by
    have hslashes : c.baseUrl.toList.rtakeWhile (· == '/') =
        List.replicate (c.baseUrl.toList.rtakeWhile (· == '/')).length '/' :=
      List.eq_replicate_iff.2 ⟨rfl, fun x hx => by simpa using List.mem_rtakeWhile_imp hx⟩
    refine ⟨(c.baseUrl.toList.rtakeWhile (· == '/')).length, ?_⟩
    rw [← hslashes, ← String.toList_inj, String.toList_append, String.toList_ofList,
      String.toList_ofList, trimmed, List.rdropWhile_append_rtakeWhile]
  last := by
    rw [String.toList_ofList]
    intro hlast
    obtain ⟨hne, hslash⟩ := List.mem_getLast?_eq_getLast hlast
    exact List.rdropWhile_last_not (· == '/') c.baseUrl.toList hne (beq_iff_eq.2 hslash.symm)

theorem trimmed_eq_nil_iff : c.trimmed = [] ↔ ∀ x ∈ c.baseUrl.toList, x = '/' := by
  simp [trimmed, List.rdropWhile_eq_nil_iff]

end ComputeConfig

/-- A client is made unless the base URL consists of slashes, and then that is what is reported. -/
theorem ComputeClient.new_eq (c : ComputeConfig) (server : Server) : ComputeClient.new c server =
    if c.trimmed.isEmpty then .error (.config "empty base url")
    else .ok ⟨String.ofList c.trimmed ++ "/calculate", c.timeout, server⟩ := by
  rw [new, ComputeConfig.endpoint_eq]
  split <;> rfl

/-! ## Valid settings -/

namespace Settings

theorem ite_some_eq_none {α : Type} {p : Prop} [Decidable p] {a : α} {o : Option α} :
    (if p then some a else o) = none ↔ ¬ p ∧ o = none := by
  split <;> simp [*]

/-- What is asked of settings, value by value. -/
theorem isValid_iff (s : Settings) : s.IsValid ↔
    (∀ x ∈ s.bus.channelPrefix.toList, Text.isBlank x = false) ∧ s.bus.pollTimeoutMs ≠ 0 ∧
    s.bus.announceRoom ≠ "" ∧ s.redis.url ≠ "" ∧ s.database.url ≠ "" ∧
    s.database.maxConnections ≠ 0 ∧ s.performance.baseUrl ≠ "" ∧ s.performance.timeoutMs ≠ 0 ∧
    s.performance.maxInFlight ≠ some 0 ∧ s.logging.level ∈ configurableLevels := by
  simp only [IsValid, fault?, ite_some_eq_none, Bool.not_eq_true, List.any_eq_false, not_not,
    and_true, ne_eq]

/-- A limit that is not zero is kept as it is. -/
theorem maxInFlight_fanout {s : Settings} (h : s.performance.maxInFlight ≠ some 0) :
    s.fanout.maxInFlight = s.performance.maxInFlight := by
  show (s.performance.maxInFlight.map fun n => max n 1) = s.performance.maxInFlight
  cases hlimit : s.performance.maxInFlight with
  | none => rfl
  | some n =>
    have hn : n ≠ 0 := fun hn => h (by rw [hlimit, hn])
    rw [Option.map_some, Nat.max_eq_left (Nat.one_le_iff_ne_zero.2 hn)]

/-- No topic's name has a blank in it. -/
theorem isBlank_channel {d : Deployment} (h : ∀ x ∈ d.tag.toList, Text.isBlank x = false)
    {channel : String} (hchannel : channel ∈ d.channels) :
    ∀ x ∈ channel.toList, Text.isBlank x = false := by
  obtain ⟨topic, -, rfl⟩ := List.mem_map.1 hchannel
  have hname : topic.name.toList.any Text.isBlank = false := by
    cases topic <;> decide
  rw [Deployment.channel, String.toList_append, List.forall_mem_append]
  exact ⟨h, fun x hx => Bool.eq_false_iff.2 (List.any_eq_false.1 hname x hx)⟩

/-- Valid settings make a bus that waits, four channels without blanks, a fan-out with exactly the
configured limit, and a client that asks at the base URL without the slashes at its end. Only if
the base URL consists of slashes there is no client, for the same reason as if it were empty. -/
theorem parts_of_valid {s : Settings} (h : s.IsValid) (server : Server) :
    ((∃ client, ComputeClient.new s.computeConfig server = .ok client) ↔
      ∃ x ∈ s.performance.baseUrl.toList, x ≠ '/') ∧
    (∀ client, ComputeClient.new s.computeConfig server = .ok client →
      ∃ base, s.computeConfig.IsBase base ∧ client.endpoint = base ++ "/calculate") ∧
    (∀ e, ComputeClient.new s.computeConfig server = .error e → e = .config "empty base url") ∧
    s.fanout.maxInFlight = s.performance.maxInFlight ∧
    0 < s.pace.pollTimeout ∧
    s.deployment.channels.length = 4 ∧
    ∀ channel ∈ s.deployment.channels, ∀ x ∈ channel.toList, Text.isBlank x = false := by
  obtain ⟨htag, hpoll, -, -, -, -, -, -, hlimit, -⟩ := s.isValid_iff.1 h
  have hslashes : s.computeConfig.trimmed.isEmpty ↔ ∀ x ∈ s.performance.baseUrl.toList, x = '/' :=
    List.isEmpty_iff.trans s.computeConfig.trimmed_eq_nil_iff
  refine ⟨?_, ?_, ?_, maxInFlight_fanout hlimit, Nat.pos_of_ne_zero hpoll, rfl,
    fun channel hchannel => isBlank_channel htag hchannel⟩
  · rw [ComputeClient.new_eq]
    split
    · rename_i hempty
      simpa using hslashes.1 hempty
    · rename_i hsome
      simpa using mt hslashes.2 hsome
  · intro client hclient
    rw [ComputeClient.new_eq] at hclient
    split at hclient
    · cases hclient
    · cases hclient
      exact ⟨_, s.computeConfig.isBase_trimmed, rfl⟩
  · intro e he
    rw [ComputeClient.new_eq] at he
    split at he
    · cases he
      rfl
    · cases he

/-- Two slashes at the end of the base URL are no part of the endpoint. -/
theorem parts_of_valid_slashes :
    let s : Settings :=
      { performance := { baseUrl := "http://omajinai:8665//", maxInFlight := some 16 } }
    s.IsValid ∧
    (∃ client, ComputeClient.new s.computeConfig .unreachable = .ok client ∧
      ∃ base, s.computeConfig.IsBase base ∧ client.endpoint = base ++ "/calculate") ∧
    s.computeConfig.endpoint = .ok "http://omajinai:8665/calculate" ∧
    s.fanout.maxInFlight = some 16 := by
  intro s
  have hvalid : s.IsValid := by decide +kernel
  obtain ⟨hmade, hendpoint, -, hlimit, -⟩ := parts_of_valid hvalid .unreachable
  obtain ⟨client, hclient⟩ := hmade.2 ⟨'h', by decide +kernel, by decide⟩
  have hurl : s.computeConfig.endpoint = .ok "http://omajinai:8665/calculate" := by decide +kernel
  exact ⟨hvalid, ⟨client, hclient, hendpoint client hclient⟩, hurl, hlimit⟩

/-- Settings with a slash as the base URL are valid, but no client is made from them. -/
theorem valid_without_client :
    let s : Settings := { performance := { baseUrl := "/" } }
    s.IsValid ∧
      ComputeClient.new s.computeConfig .unreachable = .error (.config "empty base url") := by
  intro s
  exact ⟨by decide +kernel, by cbv⟩

end Settings

end Coordination
