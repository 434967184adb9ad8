import ConjureRuntime.HttpClient.BodyHandler

/-!
# The Buffer Pool Over Round Trips

A caller that retries a request sends every attempt through the same `bodyMiddleware`.
This module follows the buffer pool over any sequence of `RoundTrip` calls, each with its
own request and next round-tripper, and compares the pooled path with the plain one.

This module complements `BodyHandler.lean` (`roundTrip_returns_buffer`, one call).

## Main results

- `roundTrips_pool_balance`: over any sequence of `RoundTrip` calls, the pool hands out
  as many buffers as it gets back, plus one per call exactly when the middleware encodes
  a non-nil input into a pooled buffer with an encoder that fails on it.
- `setRequestBody_pooled_eq_plain`: encoding into a pooled buffer sets the request that
  `Marshal` sets without a pool, when the buffer handed out is empty and `Encode` agrees
  with `Marshal`.
-/

namespace ConjureRuntime.HttpClient

/-! ## Pool accounting -/

/-- Whether a call is `bufferPool.Get()`. -/
def Call.isPoolGet : Call → Bool
  | .poolGet _ => true
  | _ => false

/-- Whether a call is `bufferPool.Put(buf)`. -/
def Call.isPoolPut : Call → Bool
  | .poolPut _ => true
  | _ => false

theorem Cleanup.puts_pool (c : Option Cleanup) :
    (Cleanup.puts c).countP Call.isPoolGet = 0 ∧
      (Cleanup.puts c).countP Call.isPoolPut = (Cleanup.puts c).length ∧ (Cleanup.puts c).length ≤ 1 := by
  rcases c with _ | _ | _ <;> simp [Cleanup.puts, Call.isPoolGet, Call.isPoolPut]

theorem countP_pool_of_isBodyCall {cs : List Call} (h : ∀ c ∈ cs, c.isBodyCall) :
    cs.countP Call.isPoolGet = 0 ∧ cs.countP Call.isPoolPut = 0 := by
  constructor <;> refine List.countP_eq_zero.2 fun c hc => ?_ <;> have := h c hc <;>
    cases c <;> simp_all [Call.isBodyCall, Call.isPoolGet, Call.isPoolPut]

namespace BodyMiddleware

variable {α : Type} (b : BodyMiddleware α)

/-- Whether `setRequestBody` takes a buffer from the pool and then fails: the input is
not nil, there is an encoder, it fails on the input, and there is a pool. -/
def keepsBuffer : Bool :=
  match b.requestInput, b.requestEncoder, b.bufferPool with
  | .nil, _, _ => false
  | input, some encoder, some _ => (encoder.encode input).2.isSome
  | _, _, _ => false

/-- `RoundTrip` called once per attempt, one after another, each with its request and
next round-tripper. -/
def roundTrips : List (Request × RoundTripper) → World → World
  | [], w => w
  | (req, next) :: attempts, w => roundTrips attempts (b.roundTrip req next w).2

/-- What `setRequestBody` does with the pool: it makes no `Put`, one `Get` for each buffer
its cleanup puts back, and it returns an error with such a cleanup exactly when the
middleware keeps its buffer. -/
def PoolSpec (req : Request) (w : World) : Prop :=
  ∃ pre, (b.setRequestBody req w).2.calls = w.calls ++ pre ∧ pre.countP Call.isPoolPut = 0 ∧
    pre.countP Call.isPoolGet = (Cleanup.puts (b.setRequestBody req w).1.1).length ∧
    b.keepsBuffer = ((b.setRequestBody req w).1.2.2.isSome &&
      !(Cleanup.puts (b.setRequestBody req w).1.1).isEmpty)

variable {b}

theorem poolSpec_of_noop {req : Request} {w : World} {d : RequestBody}
    (h : b.selectRequestBody w = (.ok (.noop, d), w)) (hk : b.keepsBuffer = false) :
    b.PoolSpec req w := by
  obtain ⟨pre, hpre, hbody⟩ := d.setRequestBody_calls req w
  rw [PoolSpec, setRequestBody_of_select h]
  exact ⟨pre, hpre, (countP_pool_of_isBodyCall hbody).2, (countP_pool_of_isBodyCall hbody).1,
    by simp [hk, Cleanup.puts]⟩

theorem poolSpec_of_pooled {req : Request} {w : World} {input : Value α}
    {encoder : Encoder (Value α)} {pool : Pool}
    (h : b.selectRequestBody w = (.ok (.putBuffer (pool.get w.calls),
      requestBodyEncoderObjectBuffer input encoder (pool.get w.calls)),
      w.record (.poolGet (pool.get w.calls))))
    (hk : b.keepsBuffer = (encoder.encode input).2.isSome) :
    b.PoolSpec req w := by
  refine ⟨[.poolGet (pool.get w.calls), .encode (pool.get w.calls)], ?_⟩
  rw [setRequestBody_of_select h, setRequestBody_encoderObjectBuffer, hk]
  cases (encoder.encode input).2 <;> simp [Cleanup.puts, Call.isPoolGet, Call.isPoolPut]

/-- Every `setRequestBody` meets `PoolSpec`. -/
theorem setRequestBody_pool (b : BodyMiddleware α) (req : Request) (w : World) : b.PoolSpec req w := by
  obtain ⟨input, enc, raw, out, dec, pool⟩ := b
  cases enc with
  | none =>
    cases input with
    | other name v =>
      exact ⟨[], by cases pool <;> simp [PoolSpec, setRequestBody, selectRequestBody, keepsBuffer,
        Cleanup.puts]⟩
    | _ => exact poolSpec_of_noop (by rfl) (by cases pool <;> rfl)
  | some e =>
    cases pool with
    | none => cases input <;> exact poolSpec_of_noop (by rfl) rfl
    | some p =>
      cases input with
      | nil => exact poolSpec_of_noop (by rfl) rfl
      | _ => exact poolSpec_of_pooled (by rfl) rfl

/-- One `RoundTrip` takes one buffer more from the pool than it puts back when the
middleware keeps its buffer, and otherwise exactly as many. -/
theorem roundTrip_pool (b : BodyMiddleware α) (req : Request) (next : RoundTripper) (w : World) :
    ∃ cs, (b.roundTrip req next w).2.calls = w.calls ++ cs ∧
      cs.countP Call.isPoolGet = cs.countP Call.isPoolPut + if b.keepsBuffer then 1 else 0 := by
  obtain ⟨pre, hpre, hput, hget, hkeep⟩ := b.setRequestBody_pool req w
  obtain ⟨herr, hok⟩ := b.roundTrip_calls_after req next w
  obtain ⟨hpg, hpp, hlen⟩ := Cleanup.puts_pool (b.setRequestBody req w).1.1
  rw [hkeep]
  cases he : (b.setRequestBody req w).1.2.2 with
  | some err =>
    refine ⟨pre, by rw [herr (by simp [he]), hpre], ?_⟩
    rw [hget, hput]
    generalize Cleanup.puts (b.setRequestBody req w).1.1 = ps at hlen
    rcases ps with _ | ⟨_, _ | _⟩ <;> simp at hlen ⊢
  | none =>
    obtain ⟨post, hpost, hdec⟩ := hok he
    refine ⟨pre ++ .roundTrip :: (Cleanup.puts (b.setRequestBody req w).1.1 ++ post),
      by rw [hpost, hpre, List.append_assoc], ?_⟩
    have hpost₀ : post.countP Call.isPoolGet = 0 ∧ post.countP Call.isPoolPut = 0 := by
      constructor <;> exact List.countP_eq_zero.2 fun c hc => by rw [hdec c hc]; decide
    simp [List.countP_append, hget, hput, hpg, hpp, hpost₀.1, hpost₀.2, Call.isPoolGet, Call.isPoolPut]

/-- Over any sequence of `RoundTrip` calls through one middleware, each with any request
and next round-tripper, the pool hands out as many buffers as it gets back, plus one per
call when the middleware keeps its buffer: a non-nil input, an encoder that fails on it,
and a pool. -/
theorem roundTrips_pool_balance (b : BodyMiddleware α) (attempts : List (Request × RoundTripper))
    (w : World) :
    ∃ cs, (b.roundTrips attempts w).calls = w.calls ++ cs ∧
      cs.countP Call.isPoolGet = cs.countP Call.isPoolPut + if b.keepsBuffer then attempts.length else 0 := by
  induction attempts generalizing w with
  | nil => exact ⟨[], by simp [roundTrips]⟩
  | cons a attempts ih =>
    obtain ⟨req, next⟩ := a
    obtain ⟨cs₁, h₁, hc₁⟩ := b.roundTrip_pool req next w
    obtain ⟨cs₂, h₂, hc₂⟩ := ih (b.roundTrip req next w).2
    refine ⟨cs₁ ++ cs₂, by rw [roundTrips, h₂, h₁, List.append_assoc], ?_⟩
    rw [List.countP_append, List.countP_append, hc₁, hc₂, List.length_cons]
    split_ifs <;> omega

end BodyMiddleware

/-! ## The pooled path and the plain one -/

/-- `Encode` writes the bytes `Marshal` returns, and fails with the error it fails with. -/
def Encoder.Agrees {β : Type} (e : Encoder β) (v : β) : Prop :=
  e.marshal v = match e.encode v with
    | (bytes, none) => .ok bytes
    | (_, some err) => .error err

namespace BodyMiddleware

variable {α : Type} {b : BodyMiddleware α}

/-- In the configuration that encodes into a pooled buffer, the two paths set the same
request from an empty buffer. -/
theorem setRequestBody_pooled {input : Value α} {encoder : Encoder (Value α)} {pool : Pool}
    {req : Request} {w : World}
    (h : b.selectRequestBody w = (.ok (.putBuffer (pool.get w.calls),
      requestBodyEncoderObjectBuffer input encoder (pool.get w.calls)),
      w.record (.poolGet (pool.get w.calls))))
    (h' : { b with bufferPool := none }.selectRequestBody w =
      (.ok (.noop, requestBodyEncoderObject input encoder), w))
    (hagree : encoder.Agrees input) (hempty : (w.buffers (pool.get w.calls)).bytes = []) :
    (b.setRequestBody req w).1.2 = ({ b with bufferPool := none }.setRequestBody req w).1.2 := by
  rw [setRequestBody_of_select h, setRequestBody_of_select h', setRequestBody_encoderObjectBuffer,
    setRequestBody_encoderObject, hagree]
  rcases encoder.encode input with ⟨bytes, _ | err⟩ <;> simp [hempty]

/-- The pooled path sets what the plain path sets: when `Encode` agrees with `Marshal` on
the input and the pool hands out an empty buffer, `setRequestBody` with a buffer pool
sets the same request, with the same `GetBody`, and returns the same error as without
one. -/
theorem setRequestBody_pooled_eq_plain (b : BodyMiddleware α) (req : Request) (w : World)
    (hagree : ∀ e, b.requestEncoder = some e → e.Agrees b.requestInput)
    (hempty : ∀ pool, b.bufferPool = some pool → (w.buffers (pool.get w.calls)).bytes = []) :
    (b.setRequestBody req w).1.2 = ({ b with bufferPool := none }.setRequestBody req w).1.2 := by
  obtain ⟨input, enc, raw, out, dec, pool⟩ := b
  cases enc with
  | none => cases input <;> rfl
  | some e =>
    cases pool with
    | none => rfl
    | some p =>
      cases input with
      | nil => rfl
      | _ => exact setRequestBody_pooled (by rfl) (by rfl) (hagree e rfl) (hempty p rfl)

/-- A JSON encoder whose `Encode` writes what `Marshal` returns, and a pool handing out
buffer `0` of a fresh world: both paths set the same request. -/
theorem setRequestBody_pooled_eq_plain_json :
    let b : BodyMiddleware Unit := ⟨.other "T" (),
      some ⟨fun _ => .ok [123, 125], fun _ => ([123, 125], none)⟩, false, none, ⟨fun _ => none⟩,
      some ⟨fun _ => 0⟩⟩
    (∀ e, b.requestEncoder = some e → e.Agrees b.requestInput) ∧
    (∀ pool, b.bufferPool = some pool → (World.init.buffers (pool.get World.init.calls)).bytes = []) ∧
    (b.setRequestBody Request.fresh World.init).1.2 =
      ({ b with bufferPool := none }.setRequestBody Request.fresh World.init).1.2 := by
  intro b
  have hagree : ∀ e, b.requestEncoder = some e → e.Agrees b.requestInput := fun _ h => by
    cases h; rfl
  have hempty : ∀ pool, b.bufferPool = some pool →
      (World.init.buffers (pool.get World.init.calls)).bytes = [] := fun _ h => by
    cases h; rfl
  exact ⟨hagree, hempty, setRequestBody_pooled_eq_plain b _ _ hagree hempty⟩

end BodyMiddleware

end ConjureRuntime.HttpClient
