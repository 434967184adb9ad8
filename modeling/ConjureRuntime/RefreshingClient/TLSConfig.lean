import Mathlib.Data.List.Range

/-!
# Refreshable TLS Configuration (`refreshingclient`)

A `RefreshableTLSConf` hands out a `*tls.Config` and calls its subscribers when the
configuration changes. `MappedRefreshableTLSConfig` stores each update and calls its
subscribers with it; `StaticTLSConfigProvider` never changes; `ConfigureTLSConfig`
derives a mapped configuration from any source by subscribing to it.

A `*tls.Config` is `Option κ` for any type `κ` of configurations (nil is `none`). A
consumer `func(*tls.Config)` acts on the world `ω` it is called in, so a subscriber
list is a list of functions `Option κ → ω → ω`, and an update is their composition in
subscription order. Locking is left out: every operation runs alone.

## Main results

- `configureTLSConfig_static_nil`: over a `StaticTLSConfigProvider`, the configuration
  `ConfigureTLSConfig` returns is nil, where `mapFn(r.GetTLSConfig(ctx))` is not.
- `configureTLSConfig_tracks_updates`: over a `MappedRefreshableTLSConfig`, it is
  `mapFn` of the source's configuration after any non-empty sequence of updates.
- `mapped_consumers_receive_updates`: a consumer of a `MappedRefreshableTLSConfig` is
  called with every update made after it subscribed, in order, whether or not its
  unsubscribe function was called, and that function does nothing; a
  `StaticTLSConfigProvider` calls no consumer and returns a nil unsubscribe function.
- `unsubscribe_does_not_stop_updates`: so unsubscribing from a mapped configuration
  does not stop the updates, and unsubscribing from a static provider panics.
-/

namespace ConjureRuntime.RefreshingClient

/-- The function `SubscribeToTLSConfig` returns to unsubscribe with. -/
inductive Unsubscribe where
  /-- `nil`: calling it panics. -/
  | nil
  /-- `func() {}`. -/
  | noop
  deriving DecidableEq, Repr

/-- Calling an unsubscribe function; `none` is the panic. -/
def Unsubscribe.call : Unsubscribe → Option Unit
  | .nil => none
  | .noop => some ()

/-- `MappedRefreshableTLSConfig`: the configuration it holds, and its subscribers. -/
structure MappedRefreshableTLSConfig (κ ω : Type) where
  conf : Option κ
  subscribers : List (Option κ → ω → ω)

namespace MappedRefreshableTLSConfig

variable {κ ω : Type}

/-- The zero value, `var m MappedRefreshableTLSConfig`. -/
def zero : MappedRefreshableTLSConfig κ ω := ⟨none, []⟩

/-- `m.GetTLSConfig(ctx)`. -/
def getTLSConfig (m : MappedRefreshableTLSConfig κ ω) : Option κ := m.conf

/-- `m.update(conf)`: store `conf`, then call every subscriber with it, in order. -/
def update (m : MappedRefreshableTLSConfig κ ω) (conf : Option κ) (w : ω) :
    MappedRefreshableTLSConfig κ ω × ω :=
  ({ m with conf := conf }, m.subscribers.foldl (fun w sub => sub conf w) w)

/-- `m.SubscribeToTLSConfig(consumer)`: append the consumer; unsubscribing is a no-op. -/
def subscribeToTLSConfig (m : MappedRefreshableTLSConfig κ ω) (consumer : Option κ → ω → ω) :
    MappedRefreshableTLSConfig κ ω × Unsubscribe :=
  ({ m with subscribers := m.subscribers ++ [consumer] }, .noop)

@[simp] theorem update_conf (m : MappedRefreshableTLSConfig κ ω) (conf : Option κ) (w : ω) :
    (m.update conf w).1.conf = conf := rfl

@[simp] theorem update_subscribers (m : MappedRefreshableTLSConfig κ ω) (conf : Option κ) (w : ω) :
    (m.update conf w).1.subscribers = m.subscribers := rfl

end MappedRefreshableTLSConfig

/-- The implementations of `RefreshableTLSConf` in this package that keep their state
here. -/
inductive RefreshableTLSConf (κ ω : Type) where
  | mapped (m : MappedRefreshableTLSConfig κ ω)
  /-- `(*StaticTLSConfigProvider)(tlsConfig)`: the pointer it was made from. -/
  | static (tlsConfig : Option κ)

namespace RefreshableTLSConf

variable {κ ω : Type}

/-- `NewStaticTLSConfigProvider(tlsConfig)`. -/
def newStaticTLSConfigProvider (tlsConfig : Option κ) : RefreshableTLSConf κ ω := .static tlsConfig

/-- `r.GetTLSConfig(ctx)`. -/
def getTLSConfig : RefreshableTLSConf κ ω → Option κ
  | .mapped m => m.getTLSConfig
  | .static tlsConfig => tlsConfig

/-- `r.SubscribeToTLSConfig(consumer)`; a static provider keeps no consumer and
returns nil. -/
def subscribeToTLSConfig : RefreshableTLSConf κ ω → (Option κ → ω → ω) →
    RefreshableTLSConf κ ω × Unsubscribe
  | .mapped m, consumer => ((.mapped (m.subscribeToTLSConfig consumer).1), (m.subscribeToTLSConfig consumer).2)
  | .static tlsConfig, _ => (.static tlsConfig, .nil)

/-- A configuration update: a mapped configuration runs `update`; a static provider is
never updated. -/
def update : RefreshableTLSConf κ ω → Option κ → ω → RefreshableTLSConf κ ω × ω
  | .mapped m, conf, w => (.mapped (m.update conf w).1, (m.update conf w).2)
  | .static tlsConfig, _, w => (.static tlsConfig, w)

/-- Updates delivered one after another. -/
def updateAll (r : RefreshableTLSConf κ ω) (confs : List (Option κ)) (w : ω) :
    RefreshableTLSConf κ ω × ω :=
  confs.foldl (fun rw conf => rw.1.update conf rw.2) (r, w)

end RefreshableTLSConf

open RefreshableTLSConf

variable {κ ω : Type}

/-! ## §1 `ConfigureTLSConfig` -/

/-- The consumer `ConfigureTLSConfig` subscribes: `m.update(mapFn(c))`, with `m` held
in the world as its first component. -/
def configureConsumer (mapFn : Option κ → Option κ) (c : Option κ)
    (mw : MappedRefreshableTLSConfig κ ω × ω) : MappedRefreshableTLSConfig κ ω × ω :=
  mw.1.update (mapFn c) mw.2

/-- `ConfigureTLSConfig(r, mapFn)`: the source after the subscription, and the world
holding the new `m`, whose address is returned. -/
def configureTLSConfig (r : RefreshableTLSConf κ (MappedRefreshableTLSConfig κ ω × ω))
    (mapFn : Option κ → Option κ) (w : ω) :
    RefreshableTLSConf κ (MappedRefreshableTLSConfig κ ω × ω) × (MappedRefreshableTLSConfig κ ω × ω) :=
  ((r.subscribeToTLSConfig (configureConsumer mapFn)).1, (.zero, w))

/-- `ConfigureTLSConfig` over a static provider holding configuration `1`, with the
identity as `mapFn`: the result's `GetTLSConfig` is nil, not `mapFn(1)`. -/
theorem configureTLSConfig_static_nil :
    let r : RefreshableTLSConf Nat (MappedRefreshableTLSConfig Nat Unit × Unit) :=
      newStaticTLSConfigProvider (some 1)
    (configureTLSConfig r id ()).2.1.getTLSConfig = none ∧ id r.getTLSConfig = some 1 :=
  ⟨rfl, rfl⟩

/-- An update of a source whose last subscriber is `ConfigureTLSConfig`'s sets `m` to
`mapFn` of the update, whatever the subscribers before it did. -/
theorem update_configureConsumer (r : MappedRefreshableTLSConfig κ (MappedRefreshableTLSConfig κ ω × ω))
    (mapFn : Option κ → Option κ) (hr : ∃ subs, r.subscribers = subs ++ [configureConsumer mapFn])
    (conf : Option κ) (mw : MappedRefreshableTLSConfig κ ω × ω) :
    (r.update conf mw).2.1.conf = mapFn conf := by
  obtain ⟨subs, hs⟩ := hr
  simp [MappedRefreshableTLSConfig.update, hs, List.foldl_append, configureConsumer]

/-- After any non-empty sequence of updates of a mapped source, the configuration
`ConfigureTLSConfig` returned is `mapFn` of the source's. -/
theorem configureTLSConfig_tracks_updates
    (m₀ : MappedRefreshableTLSConfig κ (MappedRefreshableTLSConfig κ ω × ω))
    (mapFn : Option κ → Option κ) (w : ω) (confs : List (Option κ)) (hne : confs ≠ []) :
    let c := configureTLSConfig (.mapped m₀) mapFn w
    let u := c.1.updateAll confs c.2
    u.2.1.getTLSConfig = mapFn u.1.getTLSConfig := by
  intro c u
  suffices h : ∀ (confs : List (Option κ)) (r : MappedRefreshableTLSConfig κ _) mw,
      r.subscribers = m₀.subscribers ++ [configureConsumer mapFn] → confs ≠ [] →
      ∃ r', ((RefreshableTLSConf.mapped r).updateAll confs mw).1 = .mapped r' ∧
        ((RefreshableTLSConf.mapped r).updateAll confs mw).2.1.conf = mapFn r'.conf by
    obtain ⟨r', h₁, h₂⟩ := h confs (m₀.subscribeToTLSConfig (configureConsumer mapFn)).1 (.zero, w)
      rfl hne
    rw [show u.1 = .mapped r' from h₁]
    exact h₂
  intro confs
  induction confs with
  | nil => intro _ _ _ h; exact absurd rfl h
  | cons conf confs ih =>
    intro r mw hs _
    cases confs with
    | nil => exact ⟨_, rfl, update_configureConsumer r mapFn ⟨_, hs⟩ conf mw⟩
    | cons conf' confs' => exact ih (r.update conf mw).1 (r.update conf mw).2 hs (List.cons_ne_nil _ _)

/-- A mapped source with one earlier subscriber, updated once. -/
theorem configureTLSConfig_tracks_updates_once :
    let m₀ : MappedRefreshableTLSConfig Nat (MappedRefreshableTLSConfig Nat Unit × Unit) :=
      ⟨some 0, [fun _ mw => mw]⟩
    [some 1] ≠ [] ∧
    let c := configureTLSConfig (.mapped m₀) (Option.map (· + 1)) ()
    let u := c.1.updateAll [some 1] c.2
    u.2.1.getTLSConfig = Option.map (· + 1) u.1.getTLSConfig :=
  ⟨List.cons_ne_nil _ _, configureTLSConfig_tracks_updates _ _ () [some 1] (List.cons_ne_nil _ _)⟩

/-! ## §2 Subscribers -/

/-- What a caller does with a configuration: subscribe a consumer, call the unsubscribe
function the `k`-th subscription returned, or deliver an update. -/
inductive TLSOp (κ : Type) where
  | subscribe
  | unsubscribe (k : Nat)
  | update (conf : Option κ)

/-- The configuration an operation delivers, if it is an update. -/
def TLSOp.config? : TLSOp κ → Option (Option κ)
  | .update conf => some conf
  | _ => none

/-- The calls consumers have received: consumer `k`, the one passed to the `k`-th
`SubscribeToTLSConfig`, and the configuration it was called with. -/
abbrev CallLog (κ : Type) := List (Nat × Option κ)

/-- Consumer `k`: it records each call. -/
def logConsumer (k : Nat) (conf : Option κ) (log : CallLog κ) : CallLog κ := log ++ [(k, conf)]

/-- A configuration, the unsubscribe functions it returned so far, and the calls made. -/
structure Session (κ : Type) where
  conf : RefreshableTLSConf κ (CallLog κ)
  unsubscribes : List Unsubscribe
  log : CallLog κ

/-- One operation; `none` is a panic. Calling an unsubscribe function that was never
returned calls nothing. -/
def sessionStep (s : Session κ) : TLSOp κ → Option (Session κ)
  | .subscribe =>
    let r := s.conf.subscribeToTLSConfig (logConsumer s.unsubscribes.length)
    some ⟨r.1, s.unsubscribes ++ [r.2], s.log⟩
  | .unsubscribe k =>
    match s.unsubscribes[k]? with
    | some u => u.call.map fun _ => s
    | none => some s
  | .update conf =>
    let r := s.conf.update conf s.log
    some ⟨r.1, s.unsubscribes, r.2⟩

/-- A run of operations, one at a time, stopping at a panic. -/
def runSession (s : Session κ) (ops : List (TLSOp κ)) : Option (Session κ) :=
  ops.foldlM sessionStep s

/-- The configurations consumer `k` is called with, by the specification: those of the
updates after the `k`-th subscription, in order. -/
def updatesAfter : Nat → List (TLSOp κ) → List (Option κ)
  | _, [] => []
  | 0, .subscribe :: ops => ops.filterMap TLSOp.config?
  | k + 1, .subscribe :: ops => updatesAfter k ops
  | k, _ :: ops => updatesAfter k ops

@[simp] theorem updatesAfter_nil (k : Nat) : updatesAfter k ([] : List (TLSOp κ)) = [] := by
  cases k <;> rfl

@[simp] theorem updatesAfter_unsubscribe (k j : Nat) (ops : List (TLSOp κ)) :
    updatesAfter k (.unsubscribe j :: ops) = updatesAfter k ops := by
  cases k <;> rfl

@[simp] theorem updatesAfter_update (k : Nat) (conf : Option κ) (ops : List (TLSOp κ)) :
    updatesAfter k (.update conf :: ops) = updatesAfter k ops := by
  cases k <;> rfl

/-- The calls a mapped configuration with `n` consumers makes for `ops`. -/
def mappedCalls : Nat → List (TLSOp κ) → CallLog κ
  | _, [] => []
  | n, .subscribe :: ops => mappedCalls (n + 1) ops
  | n, .unsubscribe _ :: ops => mappedCalls n ops
  | n, .update conf :: ops => (List.range n).map (·, conf) ++ mappedCalls n ops

theorem foldl_logConsumer (ks : List Nat) (conf : Option κ) (log : CallLog κ) :
    (ks.map logConsumer).foldl (fun w sub => sub conf w) log = log ++ ks.map (·, conf) := by
  induction ks generalizing log with
  | nil => simp
  | cons k ks ih => simp [ih, logConsumer]

theorem filter_range_calls (n k : Nat) (conf : Option κ) :
    (((List.range n).map (·, conf)).filter (·.1 == k)).map Prod.snd = if k < n then [conf] else [] := by
  induction n with
  | zero => simp
  | succ n ih =>
    rw [List.range_succ, List.map_append, List.filter_append, List.map_append, ih]
    by_cases hk : k = n
    · subst hk; simp
    · by_cases hlt : k < n
      · simp [hlt, Nat.lt_succ_of_lt hlt, Ne.symm hk]
      · have : ¬k < n + 1 := by omega
        simp [hlt, this, Ne.symm hk]

/-- Consumer `k`'s calls among those of a mapped configuration with `n` consumers:
every update if it has already subscribed, else those after its subscription. -/
theorem mappedCalls_consumer (ops : List (TLSOp κ)) (n k : Nat) :
    ((mappedCalls n ops).filter (·.1 == k)).map Prod.snd =
      if k < n then ops.filterMap TLSOp.config? else updatesAfter (k - n) ops := by
  induction ops generalizing n with
  | nil => split_ifs <;> simp [mappedCalls]
  | cons op ops ih =>
    cases op with
    | subscribe =>
      rw [mappedCalls, ih]
      rcases Nat.lt_trichotomy k n with h | rfl | h
      · simp [h, Nat.lt_succ_of_lt h, List.filterMap_cons, TLSOp.config?]
      · simp [updatesAfter, List.filterMap_cons, TLSOp.config?]
      · obtain ⟨j, rfl⟩ : ∃ j, k = n + 1 + j := ⟨k - (n + 1), by omega⟩
        have h₁ : ¬n + 1 + j < n + 1 := by omega
        have h₂ : ¬n + 1 + j < n := by omega
        have h₃ : n + 1 + j - n = j + 1 := by omega
        simp [h₁, h₂, h₃, updatesAfter]
    | unsubscribe j =>
      rw [mappedCalls, ih]
      split_ifs <;> simp [List.filterMap_cons, TLSOp.config?]
    | update conf =>
      rw [mappedCalls, List.filter_append, List.map_append, filter_range_calls, ih]
      split_ifs <;> simp [List.filterMap_cons, TLSOp.config?]

/-- The state of a mapped configuration after `n` subscriptions of logging consumers. -/
def MappedState (n : Nat) (s : Session κ) : Prop :=
  (∃ conf, s.conf = .mapped ⟨conf, (List.range n).map logConsumer⟩) ∧
    s.unsubscribes = List.replicate n .noop

/-- A run of a mapped configuration never panics and makes exactly `mappedCalls`. -/
theorem runSession_mapped (ops : List (TLSOp κ)) : ∀ (n : Nat) (s : Session κ), MappedState n s →
    ∃ s', runSession s ops = some s' ∧ s'.log = s.log ++ mappedCalls n ops ∧
      ∀ u ∈ s'.unsubscribes, u = .noop := by
  induction ops with
  | nil =>
    rintro n s ⟨-, hu⟩
    exact ⟨s, rfl, by simp [mappedCalls], by simp [hu, List.mem_replicate]⟩
  | cons op ops ih =>
    rintro n ⟨_, us, log⟩ ⟨⟨conf, rfl⟩, rfl⟩
    cases op with
    | subscribe =>
      obtain ⟨s', hs', hlog, hu⟩ := ih (n + 1) ⟨_, List.replicate (n + 1) .noop, log⟩
        ⟨⟨conf, by simp [List.range_succ]; rfl⟩, rfl⟩
      refine ⟨s', ?_, by simpa [mappedCalls] using hlog, hu⟩
      simpa [runSession, sessionStep, subscribeToTLSConfig,
        MappedRefreshableTLSConfig.subscribeToTLSConfig, List.replicate_succ', List.range_succ] using hs'
    | unsubscribe k =>
      obtain ⟨s', hs', hlog, hu⟩ := ih n ⟨.mapped ⟨conf, (List.range n).map logConsumer⟩,
        List.replicate n .noop, log⟩ ⟨⟨conf, rfl⟩, rfl⟩
      refine ⟨s', ?_, by simpa [mappedCalls] using hlog, hu⟩
      by_cases hk : k < n <;>
        simpa [runSession, sessionStep, List.getElem?_replicate, hk, Unsubscribe.call] using hs'
    | update c =>
      obtain ⟨s', hs', hlog, hu⟩ := ih n ⟨.mapped ⟨c, (List.range n).map logConsumer⟩,
        List.replicate n .noop, log ++ (List.range n).map (·, c)⟩ ⟨⟨c, rfl⟩, rfl⟩
      refine ⟨s', ?_, by simpa [mappedCalls] using hlog, hu⟩
      simpa [runSession, sessionStep, RefreshableTLSConf.update, MappedRefreshableTLSConfig.update,
        foldl_logConsumer] using hs'

/-- A run of a static provider calls no consumer, and every unsubscribe function it
returned is nil. -/
theorem runSession_static (tlsConfig : Option κ) (ops : List (TLSOp κ)) :
    ∀ (us : List Unsubscribe) (log : CallLog κ) s', (∀ u ∈ us, u = .nil) →
      runSession ⟨.static tlsConfig, us, log⟩ ops = some s' →
      s'.log = log ∧ ∀ u ∈ s'.unsubscribes, u = .nil := by
  induction ops with
  | nil => intro us log s' hu h; cases h; exact ⟨rfl, hu⟩
  | cons op ops ih =>
    intro us log s' hu h
    cases op with
    | subscribe =>
      refine ih (us ++ [.nil]) log s' (List.forall_mem_append.2 ⟨hu, by simp⟩) ?_
      simpa [runSession, sessionStep, subscribeToTLSConfig] using h
    | unsubscribe k =>
      cases hk : us[k]? with
      | none => exact ih us log s' hu (by simpa [runSession, sessionStep, hk] using h)
      | some u =>
        rw [hu u (List.getElem?_mem hk)] at hk
        simp [runSession, sessionStep, hk, Unsubscribe.call] at h
    | update c => exact ih us log s' hu (by simpa [runSession, sessionStep, RefreshableTLSConf.update] using h)

/-- For every sequence of subscriptions, unsubscribe calls and updates: a mapped
configuration with no subscriber yet never panics, and calls consumer `k` with the
configuration of every update after the `k`-th subscription, in order, whether or not
its unsubscribe function was called; those functions do nothing. A static provider
calls no consumer, and the unsubscribe functions it returns panic when called. -/
theorem mapped_consumers_receive_updates (conf : Option κ) (ops : List (TLSOp κ)) :
    (∃ s, runSession ⟨.mapped ⟨conf, []⟩, [], []⟩ ops = some s ∧
      (∀ k, (s.log.filter (·.1 == k)).map Prod.snd = updatesAfter k ops) ∧
      ∀ u ∈ s.unsubscribes, u.call = some ()) ∧
    ∀ s, runSession ⟨newStaticTLSConfigProvider conf, [], []⟩ ops = some s →
      s.log = [] ∧ ∀ u ∈ s.unsubscribes, u.call = none := by
  refine ⟨?_, fun s h => ?_⟩
  · obtain ⟨s, hs, hlog, hu⟩ := runSession_mapped ops 0 ⟨.mapped ⟨conf, []⟩, [], []⟩ ⟨⟨conf, rfl⟩, rfl⟩
    refine ⟨s, hs, fun k => ?_, fun u hu' => by rw [hu u hu']; rfl⟩
    simpa [hlog] using mappedCalls_consumer ops 0 k
  · obtain ⟨hlog, hu⟩ := runSession_static conf ops [] [] s nofun h
    exact ⟨hlog, fun u hu' => by rw [hu u hu']; rfl⟩

/-- A consumer subscribed and then unsubscribed is still called with the next update,
and calling the unsubscribe function of a static provider panics. -/
theorem unsubscribe_does_not_stop_updates :
    (runSession ⟨.mapped .zero, [], []⟩
      [.subscribe, .unsubscribe 0, .update (some (1 : Nat))]).map Session.log = some [(0, some 1)] ∧
    runSession ⟨newStaticTLSConfigProvider (some (1 : Nat)), [], []⟩ [.subscribe, .unsubscribe 0] = none :=
  ⟨rfl, rfl⟩

end ConjureRuntime.RefreshingClient
