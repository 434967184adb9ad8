import ConjureRuntime.RefreshingClient.TLSConfig

/-!
# Concurrent Updates of a `MappedRefreshableTLSConfig`

`MappedRefreshableTLSConfig.update` stores the new configuration with an atomic store,
and only then takes `m.mu` to call the subscribers with it. `SubscribeToTLSConfig` holds
`m.mu` while it appends, and `GetTLSConfig` is an atomic load. Goroutines that call these
at the same time therefore run as an interleaving of atomic steps: a store, a delivery to
every subscriber under the lock, a subscription under the lock.

## Architecture

- **Layer A**: the two halves of `update`, `store` and `deliver`.
- **Layer B**: schedules. Goroutine `t` updating with `confs t` takes a `store t` step and
  later a `deliver t` step; goroutine `k` subscribing `consumers k` takes one
  `subscribe k` step. `Schedule.validFrom` says which schedules goroutines can produce;
  the results below hold for every list of steps unless they say otherwise.
- **Layer C**: the operations of the one-at-a-time model of `TLSConfig.lean`: a whole
  `update`, or a subscription.
- **Layer D**: the simulation theorem `runSchedule_eq_lockOrder`: whatever the
  interleaving, the subscribers and the world they act on end as in the one-at-a-time
  run of the locked sections, in the order they took the lock, while the configuration
  `GetTLSConfig` returns is the last one stored.
- **Layer E**: consequences. Each consumer is called once with every delivery made after
  it subscribed, in lock order (`runSchedule_consumer_calls`), so in a schedule
  goroutines can produce no update that starts after a subscription is lost to it
  (`runSchedule_no_lost_update`). The configuration `ConfigureTLSConfig` returns is
  `mapFn` of the last delivery, not of the last store, so two overlapping updates can
  leave it behind its source (`configureTLSConfig_concurrent`).

## Consumers

A consumer is a function of the configuration it is called with and of the world it
acts on, as the consumer `ConfigureTLSConfig` subscribes is. A consumer that reads the
configuration back with `m.GetTLSConfig` while it is called is outside the model: that
load takes no lock, so it can see a store another goroutine made after the delivery
began, and the simulation theorem does not hold for such a consumer. A consumer that
calls `update` or `SubscribeToTLSConfig` on the same configuration deadlocks on `m.mu`.
-/

namespace ConjureRuntime.RefreshingClient

/-! ## Layer A: the two halves of `update` -/

namespace MappedRefreshableTLSConfig

variable {κ ω : Type}

/-- `m.conf.Store(conf)`, the first half of `update`. -/
def store (m : MappedRefreshableTLSConfig κ ω) (conf : Option κ) : MappedRefreshableTLSConfig κ ω :=
  { m with conf := conf }

/-- The second half of `update`, under `m.mu`: every subscriber called with `conf`, in
subscription order. It reads the subscribers, not the stored configuration. -/
def deliver (m : MappedRefreshableTLSConfig κ ω) (conf : Option κ) (w : ω) : ω :=
  m.subscribers.foldl (fun w sub => sub conf w) w

@[simp] theorem store_conf (m : MappedRefreshableTLSConfig κ ω) (conf : Option κ) :
    (m.store conf).conf = conf := rfl

@[simp] theorem store_subscribers (m : MappedRefreshableTLSConfig κ ω) (conf : Option κ) :
    (m.store conf).subscribers = m.subscribers := rfl

@[simp] theorem subscribeToTLSConfig_conf (m : MappedRefreshableTLSConfig κ ω)
    (consumer : Option κ → ω → ω) : (m.subscribeToTLSConfig consumer).1.conf = m.conf := rfl

@[simp] theorem subscribeToTLSConfig_subscribers (m : MappedRefreshableTLSConfig κ ω)
    (consumer : Option κ → ω → ω) :
    (m.subscribeToTLSConfig consumer).1.subscribers = m.subscribers ++ [consumer] := rfl

end MappedRefreshableTLSConfig

/-! ## Layer B: schedules -/

/-- An atomic step of goroutines sharing a `MappedRefreshableTLSConfig`: goroutine `t`'s
`m.conf.Store(conf)`, its loop over the subscribers under `m.mu`, or goroutine `k`'s
`SubscribeToTLSConfig`, which holds `m.mu` throughout. -/
inductive Step where
  | store (t : Nat)
  | deliver (t : Nat)
  | subscribe (k : Nat)
  deriving DecidableEq, Repr

/-- The goroutine whose store a step is. -/
def Step.stored? : Step → Option Nat
  | .store t => some t
  | _ => none

/-- The goroutine whose delivery a step is. -/
def Step.delivered? : Step → Option Nat
  | .deliver t => some t
  | _ => none

/-- Where an updating goroutine is in `update`. -/
inductive Phase where
  | idle
  | stored
  | done
  deriving DecidableEq, Repr

/-- Whether a step is the next one of its goroutine. -/
def Step.enabled (ph : Nat → Phase) : Step → Bool
  | .store t => ph t == .idle
  | .deliver t => ph t == .stored
  | .subscribe _ => true

/-- Where the updating goroutines are after a step. -/
def Step.advance (ph : Nat → Phase) : Step → Nat → Phase
  | .store t => Function.update ph t .stored
  | .deliver t => Function.update ph t .done
  | .subscribe _ => ph

/-- Whether goroutines in phases `ph` can take the steps in this order: each updating
goroutine stores once and then delivers once. -/
def Schedule.validFrom : (Nat → Phase) → List Step → Bool
  | _, [] => true
  | ph, st :: steps => st.enabled ph && validFrom (st.advance ph) steps

/-- Where the updating goroutines are after the steps. -/
def Schedule.phases (ph : Nat → Phase) (steps : List Step) : Nat → Phase :=
  steps.foldl Step.advance ph

theorem Schedule.validFrom_append (ph : Nat → Phase) (l₁ l₂ : List Step) :
    validFrom ph (l₁ ++ l₂) = (validFrom ph l₁ && validFrom (phases ph l₁) l₂) := by
  induction l₁ generalizing ph with
  | nil => simp [validFrom, phases]
  | cons st l₁ ih => simp [validFrom, phases, ih, Bool.and_assoc]

theorem Schedule.phases_append (ph : Nat → Phase) (l₁ l₂ : List Step) :
    phases ph (l₁ ++ l₂) = phases (phases ph l₁) l₂ :=
  List.foldl_append _ _ _ _

/-- A goroutine that has stored stays there until it delivers. -/
theorem Schedule.phases_stored {t : Nat} {l : List Step} :
    ∀ {ph : Nat → Phase}, ph t = .stored → .deliver t ∉ l → validFrom ph l = true →
      phases ph l t = .stored := by
  induction l with
  | nil => intro _ h _ _; exact h
  | cons st l ih =>
    intro ph h hd hv
    simp only [validFrom, Bool.and_eq_true] at hv
    refine ih ?_ (fun h' => hd (List.mem_cons_of_mem _ h')) hv.2
    cases st with
    | store u =>
      have hu : u ≠ t := by rintro rfl; simp [Step.enabled, h] at hv
      simpa [Step.advance, Function.update_noteq hu.symm] using h
    | deliver u =>
      have hu : u ≠ t := by rintro rfl; exact hd (List.mem_cons_self _ _)
      simpa [Step.advance, Function.update_noteq hu.symm] using h
    | subscribe _ => exact h

/-- In a schedule goroutines can produce, an update that stored and has finished
delivered after its store. -/
theorem Schedule.deliver_mem_of_done {ph : Nat → Phase} {t : Nat} {l : List Step}
    (hv : validFrom ph (.store t :: l) = true) (hdone : phases ph (.store t :: l) t ≠ .stored) :
    .deliver t ∈ l := by
  by_contra hd
  simp only [validFrom, Bool.and_eq_true] at hv
  exact hdone (@phases_stored t l (Function.update ph t .stored) (by simp) hd hv.2)

section Schedule

variable {κ ω : Type} (confs : Nat → Option κ) (consumers : Nat → Option κ → ω → ω)

/-- One step: goroutine `t` updates with `confs t`, goroutine `k` subscribes
`consumers k`. A delivery passes each subscriber the configuration and the world only,
so no subscriber reads `m.conf` while it is called. -/
def Step.run (s : MappedRefreshableTLSConfig κ ω × ω) : Step → MappedRefreshableTLSConfig κ ω × ω
  | .store t => (s.1.store (confs t), s.2)
  | .deliver t => (s.1, s.1.deliver (confs t) s.2)
  | .subscribe k => ((s.1.subscribeToTLSConfig (consumers k)).1, s.2)

/-- A schedule run from a configuration and the world its subscribers act on. -/
def runSchedule (s : MappedRefreshableTLSConfig κ ω × ω) (steps : List Step) :
    MappedRefreshableTLSConfig κ ω × ω :=
  steps.foldl (Step.run confs consumers) s

@[simp] theorem runSchedule_nil (s : MappedRefreshableTLSConfig κ ω × ω) :
    runSchedule confs consumers s [] = s := rfl

@[simp] theorem runSchedule_cons (s : MappedRefreshableTLSConfig κ ω × ω) (st : Step)
    (steps : List Step) :
    runSchedule confs consumers s (st :: steps) =
      runSchedule confs consumers (st.run confs consumers s) steps := rfl

/-! ## Layer C: the one-at-a-time operations -/

/-- An operation of the one-at-a-time model: goroutine `t`'s whole `update`, or goroutine
`k`'s subscription. -/
inductive Op where
  | update (t : Nat)
  | subscribe (k : Nat)
  deriving DecidableEq, Repr

/-- The goroutine whose update an operation is. -/
def Op.updated? : Op → Option Nat
  | .update t => some t
  | _ => none

/-- The goroutine whose subscription an operation is. -/
def Op.subscribed? : Op → Option Nat
  | .subscribe k => some k
  | _ => none

/-- An operation run alone, by `MappedRefreshableTLSConfig.update` and
`subscribeToTLSConfig`. -/
def Op.run (s : MappedRefreshableTLSConfig κ ω × ω) : Op → MappedRefreshableTLSConfig κ ω × ω
  | .update t => s.1.update (confs t) s.2
  | .subscribe k => ((s.1.subscribeToTLSConfig (consumers k)).1, s.2)

/-! ## Layer D: the simulation theorem -/

/-- The locked section a step is, as an operation: a delivery is its goroutine's update,
and a store takes no lock. -/
def Step.locked? : Step → Option Op
  | .store _ => none
  | .deliver t => some (.update t)
  | .subscribe k => some (.subscribe k)

/-- The locked sections of a schedule, in the order they took `m.mu`. -/
def lockOrder (steps : List Step) : List Op := steps.filterMap Step.locked?

@[simp] theorem lockOrder_store (t : Nat) (steps : List Step) :
    lockOrder (.store t :: steps) = lockOrder steps := rfl

@[simp] theorem lockOrder_deliver (t : Nat) (steps : List Step) :
    lockOrder (.deliver t :: steps) = .update t :: lockOrder steps := rfl

@[simp] theorem lockOrder_subscribe (k : Nat) (steps : List Step) :
    lockOrder (.subscribe k :: steps) = .subscribe k :: lockOrder steps := rfl

theorem lockOrder_updated (steps : List Step) :
    (lockOrder steps).filterMap Op.updated? = steps.filterMap Step.delivered? := by
  rw [lockOrder, List.filterMap_filterMap]
  congr 1
  funext st
  cases st <;> rfl

/-- What `m.mu` guards, the subscribers, with the world they act on. -/
def guarded (s : MappedRefreshableTLSConfig κ ω × ω) : List (Option κ → ω → ω) × ω :=
  (s.1.subscribers, s.2)

/-- The one-at-a-time model reads the guarded part only. -/
theorem guarded_foldl {s s' : MappedRefreshableTLSConfig κ ω × ω} (h : guarded s = guarded s')
    (ops : List Op) :
    guarded (ops.foldl (Op.run confs consumers) s) = guarded (ops.foldl (Op.run confs consumers) s') := by
  induction ops generalizing s s' with
  | nil => exact h
  | cons op ops ih =>
    simp only [guarded, Prod.mk.injEq] at h
    apply ih
    cases op <;> simp [guarded, Op.run, MappedRefreshableTLSConfig.update, h.1, h.2]

/-- Whatever the interleaving, the subscribers and their world end as in the
one-at-a-time run of the locked sections in lock order. -/
theorem runSchedule_guarded (steps : List Step) (s : MappedRefreshableTLSConfig κ ω × ω) :
    guarded (runSchedule confs consumers s steps) =
      guarded ((lockOrder steps).foldl (Op.run confs consumers) s) := by
  induction steps generalizing s with
  | nil => rfl
  | cons st steps ih =>
    rw [runSchedule_cons, ih]
    cases st <;> simp only [lockOrder_store, lockOrder_deliver, lockOrder_subscribe, List.foldl_cons] <;>
      exact guarded_foldl confs consumers (by rfl) _

theorem getD_map_getLast?_cons {β : Type} (t : Nat) (l : List Nat) (g : Nat → β) (d : β) :
    (((t :: l).getLast?).map g).getD d = ((l.getLast?).map g).getD (g t) := by
  rw [List.getLast?_cons]
  cases l.getLast? <;> rfl

/-- The configuration `GetTLSConfig` returns after a schedule is the last one stored. -/
theorem runSchedule_conf (steps : List Step) (s : MappedRefreshableTLSConfig κ ω × ω) :
    (runSchedule confs consumers s steps).1.conf =
      (((steps.filterMap Step.stored?).getLast?).map confs).getD s.1.conf := by
  induction steps generalizing s with
  | nil => rfl
  | cons st steps ih =>
    rw [runSchedule_cons, ih]
    cases st <;> simp [Step.run, Step.stored?, getD_map_getLast?_cons]

/-- For every schedule, and consumers that do not read `m.conf` while they are called,
the state it ends in is that of the one-at-a-time run of its locked sections in lock
order, except for the configuration `GetTLSConfig` returns, which is the last one
stored rather than the last one delivered. -/
theorem runSchedule_eq_lockOrder (steps : List Step) (s : MappedRefreshableTLSConfig κ ω × ω) :
    runSchedule confs consumers s steps =
      ({ ((lockOrder steps).foldl (Op.run confs consumers) s).1 with
          conf := (((steps.filterMap Step.stored?).getLast?).map confs).getD s.1.conf },
        ((lockOrder steps).foldl (Op.run confs consumers) s).2) := by
  have hg := runSchedule_guarded confs consumers steps s
  have hc := runSchedule_conf confs consumers steps s
  generalize runSchedule confs consumers s steps = r at hg hc
  obtain ⟨⟨conf, subs⟩, w⟩ := r
  simp only [guarded, Prod.mk.injEq] at hg
  simp only at hc
  rw [← hc, hg.1, hg.2]

end Schedule

/-! ## Layer E: consequences -/

section Consumers

variable {κ : Type} (confs : Nat → Option κ)

/-- The calls the one-at-a-time run of `ops` makes on logging consumers, when consumers
`ks` have subscribed. -/
def opCalls : List Nat → List Op → CallLog κ
  | _, [] => []
  | ks, .update t :: ops => ks.map (·, confs t) ++ opCalls ks ops
  | ks, .subscribe k :: ops => opCalls (ks ++ [k]) ops

theorem opCalls_append (ks : List Nat) (o₁ o₂ : List Op) :
    opCalls confs ks (o₁ ++ o₂) =
      opCalls confs ks o₁ ++ opCalls confs (ks ++ o₁.filterMap Op.subscribed?) o₂ := by
  induction o₁ generalizing ks with
  | nil => simp [opCalls]
  | cons op o₁ ih => cases op <;> simp [opCalls, ih, Op.subscribed?]

/-- The one-at-a-time run of logging consumers logs `opCalls`. -/
theorem foldl_run_logConsumer (ops : List Op) (c : Option κ) (ks : List Nat) (log : CallLog κ) :
    ∃ c', ops.foldl (Op.run confs logConsumer) (⟨c, ks.map logConsumer⟩, log) =
      (⟨c', (ks ++ ops.filterMap Op.subscribed?).map logConsumer⟩, log ++ opCalls confs ks ops) := by
  induction ops generalizing c ks log with
  | nil => exact ⟨c, by simp [opCalls]⟩
  | cons op ops ih =>
    cases op with
    | update t =>
      obtain ⟨c', h⟩ := ih (confs t) ks (log ++ ks.map (·, confs t))
      exact ⟨c', by simpa [Op.run, MappedRefreshableTLSConfig.update, foldl_logConsumer, opCalls,
        Op.subscribed?] using h⟩
    | subscribe k =>
      obtain ⟨c', h⟩ := ih c (ks ++ [k]) log
      exact ⟨c', by simpa [Op.run, opCalls, Op.subscribed?] using h⟩

theorem filter_map_calls (ks : List Nat) (k : Nat) (conf : Option κ) :
    ((ks.map (·, conf)).filter (·.1 == k)).map Prod.snd = List.replicate (ks.count k) conf := by
  induction ks with
  | nil => rfl
  | cons j ks ih => by_cases h : j = k <;> simp [List.count_cons, h, ih, List.replicate_succ]

/-- Without a further subscription of its own, consumer `k` is called with every update,
once per subscription it already has. -/
theorem opCalls_consumer (k : Nat) (ops : List Op) (hk : .subscribe k ∉ ops) (ks : List Nat) :
    ((opCalls confs ks ops).filter (·.1 == k)).map Prod.snd =
      (ops.filterMap Op.updated?).flatMap fun t => List.replicate (ks.count k) (confs t) := by
  induction ops generalizing ks with
  | nil => rfl
  | cons op ops ih =>
    rw [List.mem_cons, not_or] at hk
    cases op with
    | update t => simp [opCalls, Op.updated?, filter_map_calls, ih hk.2]
    | subscribe j =>
      have hj : j ≠ k := fun h => hk.1 (h ▸ rfl)
      simp [opCalls, Op.updated?, ih hk.2 (ks ++ [j]), List.count_append, List.count_cons, hj]

@[simp] theorem lockOrder_append (l₁ l₂ : List Step) :
    lockOrder (l₁ ++ l₂) = lockOrder l₁ ++ lockOrder l₂ :=
  List.filterMap_append _ _ _

theorem mem_subscribed {k : Nat} {ops : List Op} :
    k ∈ ops.filterMap Op.subscribed? ↔ .subscribe k ∈ ops := by
  rw [List.mem_filterMap]
  constructor
  · rintro ⟨op, hop, h⟩
    cases op <;> simp only [Op.subscribed?, reduceCtorEq, Option.some.injEq] at h
    exact h ▸ hop
  · exact fun h => ⟨_, h, rfl⟩

theorem subscribe_mem_lockOrder {k : Nat} {steps : List Step} :
    .subscribe k ∈ lockOrder steps ↔ .subscribe k ∈ steps := by
  induction steps with
  | nil => simp [lockOrder]
  | cons st steps ih => cases st <;> simp [ih]

/-- In the one-at-a-time model, a consumer subscribed once is called with every later
update, once each, and with nothing before. -/
theorem opCalls_subscribed_once (ks : List Nat) (o₁ o₂ : List Op) (k : Nat) (hks : k ∉ ks)
    (h₁ : .subscribe k ∉ o₁) (h₂ : .subscribe k ∉ o₂) :
    ((opCalls confs ks (o₁ ++ .subscribe k :: o₂)).filter (·.1 == k)).map Prod.snd =
      (o₂.filterMap Op.updated?).map confs := by
  have hS : k ∉ ks ++ o₁.filterMap Op.subscribed? := by
    simp only [List.mem_append, mem_subscribed, not_or]
    exact ⟨hks, h₁⟩
  rw [opCalls_append, opCalls, List.filter_append, List.map_append, opCalls_consumer confs k _ h₁,
    opCalls_consumer confs k _ h₂, List.count_eq_zero_of_not_mem hks, List.count_append,
    List.count_eq_zero_of_not_mem hS]
  simp [← List.map_eq_flatMap, List.flatMap_eq_nil_iff]

/-- Whatever the interleaving, logging consumers log the calls of the one-at-a-time run of
the locked sections in lock order. -/
theorem runSchedule_log (c : Option κ) (ks : List Nat) (log : CallLog κ) (steps : List Step) :
    (runSchedule confs logConsumer (⟨c, ks.map logConsumer⟩, log) steps).2 =
      log ++ opCalls confs ks (lockOrder steps) := by
  obtain ⟨_, h⟩ := foldl_run_logConsumer confs (lockOrder steps) c ks log
  have hw := congrArg Prod.snd (runSchedule_guarded confs logConsumer steps (⟨c, ks.map logConsumer⟩, log))
  simpa only [guarded, h] using hw

/-- For every interleaving of updates and subscriptions, a consumer subscribed once is
called once with the configuration of every delivery made after its subscription, in the
order the deliveries took the lock, and with nothing else: no delivery is lost or repeated,
whenever its update stored. -/
theorem runSchedule_consumer_calls (c : Option κ) (ks : List Nat) (log : CallLog κ)
    (pre post : List Step) (k : Nat) (hks : k ∉ ks) (hpre : .subscribe k ∉ pre)
    (hpost : .subscribe k ∉ post) :
    ((runSchedule confs logConsumer (⟨c, ks.map logConsumer⟩, log)
        (pre ++ .subscribe k :: post)).2.filter (·.1 == k)).map Prod.snd =
      (log.filter (·.1 == k)).map Prod.snd ++ (post.filterMap Step.delivered?).map confs := by
  rw [runSchedule_log, List.filter_append, List.map_append, lockOrder_append, lockOrder_subscribe,
    opCalls_subscribed_once confs ks _ _ k hks (mt subscribe_mem_lockOrder.1 hpre)
      (mt subscribe_mem_lockOrder.1 hpost), lockOrder_updated]

/-- Consumer `5` subscribes between goroutine `0`'s store and its delivery, and goroutine
`1` updates after that: it is called with both configurations. -/
theorem runSchedule_consumer_calls_between :
    (5 ∉ ([] : List Nat) ∧ Step.subscribe 5 ∉ [Step.store 0] ∧
      Step.subscribe 5 ∉ [Step.deliver 0, .store 1, .deliver 1]) ∧
    ((runSchedule some logConsumer (⟨none, ([] : List Nat).map logConsumer⟩, [])
        ([Step.store 0] ++ .subscribe 5 :: [.deliver 0, .store 1, .deliver 1])).2.filter
          (·.1 == 5)).map Prod.snd = [some 0, some 1] :=
  ⟨by decide, runSchedule_consumer_calls some none [] [] _ _ 5 (by decide) (by decide) (by decide)⟩

/-- No update is lost: in a schedule goroutines can produce, after which no update is
half done, a consumer subscribed once is called with the configuration of every update
that stored after its subscription. -/
theorem runSchedule_no_lost_update (c : Option κ) (ks : List Nat) (log : CallLog κ)
    (pre mid post : List Step) (k t : Nat) (hks : k ∉ ks) (hpre : .subscribe k ∉ pre)
    (hpost : .subscribe k ∉ mid ++ .store t :: post)
    (hv : Schedule.validFrom (fun _ => .idle) (pre ++ .subscribe k :: (mid ++ .store t :: post)) = true)
    (hdone : ∀ u, Schedule.phases (fun _ => .idle) (pre ++ .subscribe k :: (mid ++ .store t :: post)) u ≠
      .stored) :
    confs t ∈ ((runSchedule confs logConsumer (⟨c, ks.map logConsumer⟩, log)
      (pre ++ .subscribe k :: (mid ++ .store t :: post))).2.filter (·.1 == k)).map Prod.snd := by
  rw [runSchedule_log, List.filter_append, List.map_append, lockOrder_append, lockOrder_subscribe,
    opCalls_subscribed_once confs ks _ _ k hks (mt subscribe_mem_lockOrder.1 hpre)
      (mt subscribe_mem_lockOrder.1 hpost), lockOrder_updated]
  rw [← List.cons_append, ← List.append_assoc, Schedule.validFrom_append, Bool.and_eq_true] at hv
  rw [← List.cons_append, ← List.append_assoc, Schedule.phases_append] at hdone
  have hd := Schedule.deliver_mem_of_done hv.2 (hdone t)
  exact List.mem_append_right _ (List.mem_map_of_mem _ (List.mem_filterMap.2
    ⟨_, List.mem_append_right _ (List.mem_cons_of_mem _ hd), rfl⟩))

/-- Consumer `5` subscribes while goroutine `1` is updating, and goroutine `0` updates
after that: both finish, and consumer `5` is called with goroutine `0`'s configuration. -/
theorem runSchedule_no_lost_update_overlap :
    (5 ∉ ([] : List Nat) ∧ Step.subscribe 5 ∉ [Step.store 1] ∧
      Step.subscribe 5 ∉ [Step.deliver 1] ++ .store 0 :: [.deliver 0] ∧
      Schedule.validFrom (fun _ => .idle)
        ([Step.store 1] ++ .subscribe 5 :: ([.deliver 1] ++ .store 0 :: [.deliver 0])) = true ∧
      ∀ u, Schedule.phases (fun _ => .idle)
        ([Step.store 1] ++ .subscribe 5 :: ([.deliver 1] ++ .store 0 :: [.deliver 0])) u ≠ .stored) ∧
    some 0 ∈ ((runSchedule some logConsumer (⟨none, ([] : List Nat).map logConsumer⟩, [])
      ([Step.store 1] ++ .subscribe 5 :: ([.deliver 1] ++ .store 0 :: [.deliver 0]))).2.filter
        (·.1 == 5)).map Prod.snd := by
  have hdone : ∀ u, Schedule.phases (fun _ => .idle)
      ([Step.store 1] ++ .subscribe 5 :: ([.deliver 1] ++ .store 0 :: [.deliver 0])) u ≠ .stored := by
    intro u
    simp only [Schedule.phases, List.foldl, List.cons_append, List.nil_append, Step.advance,
      Function.update_apply]
    split_ifs <;> decide
  exact ⟨⟨by decide, by decide, by decide, rfl, hdone⟩,
    runSchedule_no_lost_update some none [] [] _ _ _ 5 0 (by decide) (by decide) (by decide) rfl hdone⟩

end Consumers

section Derived

variable {κ ω : Type} (mapFn : Option κ → Option κ)

/-- A consumer that leaves alone the configuration `ConfigureTLSConfig` returned. -/
def KeepsDerived
    (sub : Option κ → MappedRefreshableTLSConfig κ ω × ω → MappedRefreshableTLSConfig κ ω × ω) : Prop :=
  ∀ c x, (sub c x).1.conf = x.1.conf

/-- A source's subscribers: any before `ConfigureTLSConfig`'s consumer, and after it only
consumers that leave the derived configuration alone. -/
def Tracks
    (subs : List (Option κ → MappedRefreshableTLSConfig κ ω × ω → MappedRefreshableTLSConfig κ ω × ω)) :
    Prop :=
  ∃ before after, subs = before ++ configureConsumer mapFn :: after ∧ ∀ sub ∈ after, KeepsDerived sub

theorem foldl_keepsDerived
    (subs : List (Option κ → MappedRefreshableTLSConfig κ ω × ω → MappedRefreshableTLSConfig κ ω × ω))
    (h : ∀ sub ∈ subs, KeepsDerived sub) (c : Option κ) (x : MappedRefreshableTLSConfig κ ω × ω) :
    (subs.foldl (fun w sub => sub c w) x).1.conf = x.1.conf := by
  induction subs generalizing x with
  | nil => rfl
  | cons sub subs ih =>
    rw [List.foldl_cons, ih (fun s hs => h s (List.mem_cons_of_mem _ hs)),
      h sub (List.mem_cons_self _ _)]

/-- A delivery to a source that tracks sets the derived configuration to `mapFn` of it. -/
theorem deliver_of_tracks {r : MappedRefreshableTLSConfig κ (MappedRefreshableTLSConfig κ ω × ω)}
    (h : Tracks mapFn r.subscribers) (c : Option κ) (x : MappedRefreshableTLSConfig κ ω × ω) :
    (r.deliver c x).1.conf = mapFn c := by
  obtain ⟨before, after, hs, hafter⟩ := h
  rw [MappedRefreshableTLSConfig.deliver, hs, List.foldl_append, List.foldl_cons,
    foldl_keepsDerived after hafter]
  rfl

/-- In the one-at-a-time model, the derived configuration is `mapFn` of the last update. -/
theorem foldl_run_tracks (confs : Nat → Option κ)
    (consumers : Nat → Option κ → MappedRefreshableTLSConfig κ ω × ω → MappedRefreshableTLSConfig κ ω × ω)
    (hkeep : ∀ k, KeepsDerived (consumers k)) (ops : List Op) :
    ∀ r x, Tracks mapFn r.subscribers →
      (ops.foldl (Op.run confs consumers) (r, x)).2.1.conf =
        (((ops.filterMap Op.updated?).getLast?).map (mapFn ∘ confs)).getD x.1.conf := by
  induction ops with
  | nil => intros; rfl
  | cons op ops ih =>
    intro r x hr
    cases op with
    | update t =>
      have h := ih (r.store (confs t)) (r.deliver (confs t) x) hr
      rw [deliver_of_tracks mapFn hr] at h
      rw [List.foldl_cons, show Op.run confs consumers (r, x) (.update t) =
        (r.store (confs t), r.deliver (confs t) x) from rfl, h]
      simp [Op.updated?, getD_map_getLast?_cons]
    | subscribe k =>
      obtain ⟨before, after, hs, hafter⟩ := hr
      refine ih _ _ ⟨before, after ++ [consumers k], by simp [Op.run, hs], fun sub hsub => ?_⟩
      rcases List.mem_append.1 hsub with h | h
      · exact hafter sub h
      · exact List.mem_singleton.1 h ▸ hkeep k

/-- Under goroutines updating a `MappedRefreshableTLSConfig` source and subscribing to it
in any interleaving, where no other consumer sets the derived configuration or reads the
source's: the source
returns the last configuration stored, while the configuration `ConfigureTLSConfig`
returned holds `mapFn` of the last one delivered. When two updates overlap, these need
not be the same update. -/
theorem configureTLSConfig_concurrent (m₀ : MappedRefreshableTLSConfig κ (MappedRefreshableTLSConfig κ ω × ω))
    (w : ω) (r : MappedRefreshableTLSConfig κ (MappedRefreshableTLSConfig κ ω × ω))
    (mw : MappedRefreshableTLSConfig κ ω × ω) (hr : configureTLSConfig (.mapped m₀) mapFn w = (.mapped r, mw))
    (confs : Nat → Option κ)
    (consumers : Nat → Option κ → MappedRefreshableTLSConfig κ ω × ω → MappedRefreshableTLSConfig κ ω × ω)
    (hkeep : ∀ k, KeepsDerived (consumers k)) (steps : List Step) :
    (runSchedule confs consumers (r, mw) steps).1.getTLSConfig =
        (((steps.filterMap Step.stored?).getLast?).map confs).getD m₀.getTLSConfig ∧
      (runSchedule confs consumers (r, mw) steps).2.1.getTLSConfig =
        (((steps.filterMap Step.delivered?).getLast?).map (mapFn ∘ confs)).getD none := by
  simp only [configureTLSConfig, RefreshableTLSConf.subscribeToTLSConfig, Prod.mk.injEq,
    RefreshableTLSConf.mapped.injEq] at hr
  obtain ⟨rfl, rfl⟩ := hr
  refine ⟨runSchedule_conf confs consumers steps _, ?_⟩
  have hw := congrArg Prod.snd (runSchedule_guarded confs consumers steps
    ((m₀.subscribeToTLSConfig (configureConsumer mapFn)).1, (.zero, w)))
  simp only [guarded] at hw
  rw [MappedRefreshableTLSConfig.getTLSConfig, hw,
    foldl_run_tracks mapFn confs consumers hkeep _ _ _ ⟨m₀.subscribers, [], rfl, nofun⟩, lockOrder_updated]
  rfl

/-- Two goroutines update a source with `0` and `1`: both store, then the second delivers
before the first. The source returns `1`, and `ConfigureTLSConfig`'s result with the
identity `mapFn` returns `0`. -/
theorem configureTLSConfig_concurrent_overlap :
    let r : MappedRefreshableTLSConfig Nat (MappedRefreshableTLSConfig Nat Unit × Unit) :=
      ⟨none, [configureConsumer id]⟩
    let consumers : Nat → Option Nat → MappedRefreshableTLSConfig Nat Unit × Unit →
      MappedRefreshableTLSConfig Nat Unit × Unit := fun _ _ x => x
    let steps := [Step.store 0, .store 1, .deliver 1, .deliver 0]
    Schedule.validFrom (fun _ => .idle) steps = true ∧
    configureTLSConfig (.mapped ⟨none, []⟩) id () = (.mapped r, (.zero, ())) ∧
    (∀ k, KeepsDerived (consumers k)) ∧
    (runSchedule some consumers (r, (.zero, ())) steps).1.getTLSConfig = some 1 ∧
    (runSchedule some consumers (r, (.zero, ())) steps).2.1.getTLSConfig = some 0 :=
  ⟨rfl, rfl, fun _ _ _ => rfl,
    configureTLSConfig_concurrent id ⟨none, []⟩ () _ _ rfl some _ (fun _ _ _ => rfl) _⟩

end Derived

end ConjureRuntime.RefreshingClient
