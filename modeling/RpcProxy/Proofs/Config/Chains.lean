import RpcProxy.Proofs.Server.Reload

/-!
# The filters that settings can name

A chain that is built from settings has five kinds of filters in it, whatever the settings say: the
router, the filter for direct responses, the access log, and the two that set properties. Which
settings a filter comes from, and with which values, is `Config.Filter.Makes`; `Plan.makes` finds it
for every filter of a plan.

Statements about all chains speak of arbitrary filters and ask for properties of them. With
`Plan.makes` such a property is shown for these five once, and holds of every listener.
-/

set_option autoImplicit false

namespace RpcProxy

/-- The filters that a filter of the settings can stand for. -/
inductive Config.Filter.Makes (generation : Nat) (f : Config.Filter) : Part → Prop
  | router : f.name = routerName → Makes generation f ⟨.decoder, .router generation⟩
  | direct : f.name = "direct_response" → Makes generation f ⟨.decoder, .plain directResponse⟩
  | access (sink : AccessSink) : f.name = "access_log" → Makes generation f ⟨.both, .accessLog sink⟩
  | requests : f.name = "set_metadata" →
    Makes generation f ⟨.decoder, .plain (setOnRequests (f.stringMap "request").toList)⟩
  | responses : f.name = "set_metadata" →
    Makes generation f ⟨.encoder, .plain (setOnResponses (f.stringMap "response").toList)⟩

section

variable {generation : Nat} {faults : FileFaults} {f : Config.Filter} {parts : List Part} {p : Part}

theorem builtIn_makes (h : builtIn faults f = .ok parts) (hp : p ∈ parts) : f.Makes generation p := by
  unfold builtIn at h
  split at h
  · next hname =>
    dsimp only at h
    split at h
    · cases h
    · cases h
      rw [List.mem_singleton.1 hp]
      exact .access _ hname
  · next hname =>
    cases h
    rw [List.mem_singleton.1 hp]
    exact .direct hname
  · next hname =>
    cases h
    rcases List.mem_append.1 hp with hp | hp
    · split at hp
      · cases hp
      · rw [List.mem_singleton.1 hp]
        exact .requests hname
    · split at hp
      · cases hp
      · rw [List.mem_singleton.1 hp]
        exact .responses hname
  · cases h

theorem FilterRegistry.build_makes
    (h : (FilterRegistry.routing generation).build faults f = .ok parts) (hp : p ∈ parts) :
    f.Makes generation p := by
  by_cases hrouter : f.name = routerName
  · simp only [FilterRegistry.build, find?_routing, hrouter, if_true, Except.ok.injEq] at h
    subst h
    rw [List.mem_singleton.1 hp]
    exact .router hrouter
  · simp only [FilterRegistry.build, find?_routing, hrouter, if_false] at h
    exact builtIn_makes h hp

end

/-- Every filter of a plan comes from a filter of the settings. -/
theorem Plan.makes {generation : Nat} {faults : FileFaults} {l : Config.Listener} {plan : Plan}
    (h : Plan.ofConfig (.routing generation) faults l = .ok plan) {p : Part} (hp : p ∈ plan.parts) :
    ∃ f ∈ l.filters, f.Makes generation p := by
  obtain ⟨codec, routes, parts, -, -, hparts, rfl⟩ := Plan.ofConfig_eq_ok_iff.1 h
  obtain ⟨ps, hps, hp⟩ := List.mem_flatten.1 hp
  obtain ⟨i, hi⟩ := List.mem_iff_getElem?.1 hps
  obtain ⟨f, hf, hbuilt⟩ := Watched.getElem?_of_mapM_ok hparts hi
  exact ⟨f, List.mem_of_getElem? hf, FilterRegistry.build_makes hbuilt hp⟩

/-- Replies can always be made. -/
theorem Plan.createsReplies {registry : FilterRegistry} {faults : FileFaults} {l : Config.Listener}
    {plan : Plan} (h : Plan.ofConfig registry faults l = .ok plan) :
    plan.codec.createsReplies = true := by
  obtain ⟨codec, routes, parts, hcodec, -, -, rfl⟩ := Plan.ofConfig_eq_ok_iff.1 h
  unfold Codec.ofName at hcodec
  split at hcodec
  · cases hcodec
    rfl
  · cases hcodec

end RpcProxy
