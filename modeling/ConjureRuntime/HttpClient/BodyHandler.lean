import ConjureRuntime.HttpClient.StreamBodies
import ConjureRuntime.HttpClient.Replay

/-!
# The Body Middleware (`body_handler.go`)

`bodyMiddleware` is the stage of the client's round-tripper chain that sets the
request body, calls the next stage, returns the pooled buffer, and reads the
response.

## Main definitions

- `BodyMiddleware.setRequestBody`, `BodyMiddleware.noRetriesRequestBody`,
  `BodyMiddleware.readResponse`, `BodyMiddleware.roundTrip`.

## Main results

- `noRetriesRequestBody_iff_not_replayable`: after a successful `setRequestBody`,
  the retry-safety marker is set for every non-empty body without `GetBody`, and
  only for bodies without one.
- `setRequestBody_replays_encoded`: with an encoder, or for a nil input, the body set
  has fixed bytes (`Marshal`'s output, or the pooled buffer's unread bytes followed by
  what `Encode` wrote) that `Body` and every `GetBody` stream read to, however the
  reads interleave.
- `roundTrip_returns_buffer`: when the request body is set, each pooled buffer is
  put back exactly once, after `next.RoundTrip`; when it is not, `next.RoundTrip`
  is not called.
- `roundTrip_keeps_buffer_on_encode_error`: when encoding into a pooled buffer
  fails, `RoundTrip` returns without putting the buffer back.
-/

namespace ConjureRuntime.HttpClient

open ConjureRuntime.Go

/-- A value held in an `interface{}` the middleware inspects: nil, a `RequestBody`,
or any other value, with the name of its dynamic type. -/
inductive Value (α : Type) where
  | nil
  | requestBody (b : RequestBody)
  | other (typeName : String) (v : α)

/-- `*http.Response`, as far as `readResponse` looks into it. -/
structure Response where
  body : Option ReadCloser
  contentLength : Int

/-- `codecs.Decoder`: the error `Decode(resp.Body, out)` returns. -/
structure Decoder where
  decode : Response → Option GoError

/-- The next `http.RoundTripper`: the response (nil or not) and error it returns. -/
structure RoundTripper where
  roundTrip : Request → Option Response × Option GoError

/-- `bodyMiddleware`; a nil `responseOutput` is `none`, and a non-nil one is the
address of the caller's output value. -/
structure BodyMiddleware (α : Type) where
  requestInput : Value α
  requestEncoder : Option (Encoder (Value α))
  rawOutput : Bool
  responseOutput : Option Nat
  responseDecoder : Decoder
  bufferPool : Option Pool

/-- The functions `setRequestBody` returns to run once the request has completed. -/
inductive Cleanup where
  /-- `func() {}`. -/
  | noop
  /-- `func() { b.bufferPool.Put(buf) }`. -/
  | putBuffer (buf : Nat)

/-- Calling a cleanup function. `RoundTrip` calls it only after `setRequestBody`
returned no error, and then it is not nil. -/
def Cleanup.run : Option Cleanup → World → World
  | some (.putBuffer buf), w => w.record (.poolPut buf)
  | _, w => w

/-- The calls a cleanup function makes. -/
def Cleanup.puts : Option Cleanup → List Call
  | some (.putBuffer buf) => [.poolPut buf]
  | _ => []

@[simp] theorem Cleanup.run_calls (c : Option Cleanup) (w : World) :
    (Cleanup.run c w).calls = w.calls ++ Cleanup.puts c := by
  rcases c with _ | _ | _ <;> simp [run, puts]

namespace BodyMiddleware

variable {α : Type} (b : BodyMiddleware α)

/-- The body `setRequestBody` chooses and the cleanup it prepares, or its
configuration error: the `if`/`else if` chain before the final call. -/
def selectRequestBody (w : World) : Except GoError (Cleanup × RequestBody) × World :=
  match b.requestInput, b.requestEncoder with
  | .nil, _ => (.ok (.noop, requestBodyEmpty), w)
  | input, some encoder =>
    match b.bufferPool with
    | some pool =>
      let (buf, w) := pool.getBuffer w
      (.ok (.putBuffer buf, requestBodyEncoderObjectBuffer input encoder buf), w)
    | none => (.ok (.noop, requestBodyEncoderObject input encoder), w)
  | .requestBody body, none => (.ok (.noop, body), w)
  | .other typeName _, none =>
    (.error (.werror "requestEncoder is nil but requestInput is not RequestBody"
      [("requestInputType", typeName)]), w)

/-- `setRequestBody(req)`: the cleanup function (nil with the configuration error),
the request, and the error. -/
def setRequestBody (req : Request) (w : World) :
    (Option Cleanup × Request × Option GoError) × World :=
  match b.selectRequestBody w with
  | (.error err, w) => ((none, req, some err), w)
  | (.ok (cleanup, requestBody), w) =>
    let ((req, err), w) := requestBody.setRequestBody req w
    ((some cleanup, req, err), w)

/-- `noRetriesRequestBody()`: no encoder, and the input has the marker type. -/
def noRetriesRequestBody : Bool :=
  match b.requestEncoder, b.requestInput with
  | none, .requestBody (.noRetries _) => true
  | _, _ => false

/-- `readResponse(resp, respErr)`. -/
def readResponse (resp : Option Response) (respErr : Option GoError) (w : World) :
    Option GoError × World :=
  if b.rawOutput && respErr.isNone then (none, w)
  else
    match respErr, b.responseOutput, resp with
    | some err, _, _ => (some err, w)
    | none, some _, some r =>
      if r.body.isNone || r.contentLength == 0 then (none, w)
      else (b.responseDecoder.decode r, w.record .decode)
    | none, _, _ => (none, w)

/-- `RoundTrip(req, next)`. The cleanup is nil only together with an error, so it is
always there when it is run. -/
def roundTrip (req : Request) (next : RoundTripper) (w : World) :
    (Option Response × Option GoError) × World :=
  let ((cleanup, req, err), w) := b.setRequestBody req w
  match err with
  | some err => ((none, some err), w)
  | none =>
    let (resp, respErr) := next.roundTrip req
    let w := Cleanup.run cleanup (w.record .roundTrip)
    match b.readResponse resp respErr w with
    | (some err, w) => ((none, some err), w)
    | (none, w) => ((resp, none), w)

/-! ## §1 The retry-safety marker -/

/-- The inputs the middleware is built with: nil, any value with an encoder, or,
without an encoder, a descriptor the package's constructors build. -/
def ValidInput : Prop :=
  b.requestInput = .nil ∨ (∃ e, b.requestEncoder = some e) ∨
    ∃ d, b.requestInput = .requestBody d ∧ d.Built ∧ b.requestEncoder = none

/-- A configuration the middleware is built with chooses a body without error: the
marker type's `RequestBodyStreamOnce` exactly when the marker is set, otherwise a
`requestBodyFunc` of another constructor. -/
theorem selectRequestBody_cases {b : BodyMiddleware α} (hb : b.ValidInput) (w : World) :
    ∃ cleanup d w', b.selectRequestBody w = (.ok (cleanup, d), w') ∧
      ((b.noRetriesRequestBody = true ∧ ∃ i, d = .noRetries (.streamOnce i)) ∨
        (b.noRetriesRequestBody = false ∧ ∃ f, d = .func f ∧ ∀ i, f ≠ .streamOnce i)) := by
  obtain ⟨input, enc, raw, out, dec, pool⟩ := b
  rcases hb with h | ⟨e, h⟩ | ⟨d, h, hd, h'⟩ <;> simp only at h <;> subst h
  · cases enc <;> exact ⟨_, _, _, rfl, .inr ⟨rfl, _, rfl, nofun⟩⟩
  · cases input <;> cases pool <;> exact ⟨_, _, _, rfl, .inr ⟨rfl, _, rfl, nofun⟩⟩
  · simp only at h'
    subst h'
    cases hd with
    | streamOnce i => exact ⟨_, _, _, rfl, .inl ⟨rfl, i, rfl⟩⟩
    | _ => exact ⟨_, _, _, rfl, .inr ⟨rfl, _, rfl, nofun⟩⟩

theorem setRequestBody_of_select {b : BodyMiddleware α} {w w' : World} {cleanup : Cleanup}
    {d : RequestBody} (h : b.selectRequestBody w = (.ok (cleanup, d), w')) (req : Request) :
    b.setRequestBody req w =
      ((some cleanup, (d.setRequestBody req w').1.1, (d.setRequestBody req w').1.2),
        (d.setRequestBody req w').2) := by
  simp [setRequestBody, h]

end BodyMiddleware

/-- Every other constructor sets a `GetBody` unless the body is `http.NoBody`. -/
theorem RequestBodyFunc.noBody_of_getBody_none {f : RequestBodyFunc} (hf : ∀ i, f ≠ .streamOnce i)
    {req : Request} {w : World} (hok : (f.setRequestBody req w).1.2 = none)
    (hg : (f.setRequestBody req w).1.1.getBody = none) :
    (f.setRequestBody req w).1.1.body = some .noBody := by
  obtain ⟨-, herr, -, hnil, hsome⟩ := @RequestBodyFunc.setRequestBody_of_call f req w _ _ rfl
  have he : (f.call w).1.err = none := herr ▸ hok
  cases hb : (f.call w).1.body with
  | none => rw [hnil he hb]
  | some body =>
    rw [hsome he body hb] at hg ⊢
    cases f with
    | empty => simpa [call] using hb.symm
    | inMemory input => cases input <;> simp [call, GetBody.call] at hb hg
    | streamOnce i => exact absurd rfl (hf i)
    | streamWithReplay i => cases i <;> simp [call] at hg
    | encoderObject m => cases m <;> simp [call, GetBody.call] at he hg
    | encoderObjectBuffer e buffer =>
      obtain ⟨written, _ | err⟩ := e <;> simp [call, GetBody.call] at he hg

namespace BodyMiddleware

variable {α : Type} {b : BodyMiddleware α}

/-- After a successful `setRequestBody`, the retry-safety marker is set for every body
that has no `GetBody` and is not `http.NoBody`, and only for bodies without `GetBody`. -/
theorem noRetriesRequestBody_iff_not_replayable (hb : b.ValidInput) (req : Request) (w : World)
    (hok : (b.setRequestBody req w).1.2.2 = none) :
    ((b.setRequestBody req w).1.2.1.getBody = none →
      (b.setRequestBody req w).1.2.1.body ≠ some .noBody → b.noRetriesRequestBody = true) ∧
    (b.noRetriesRequestBody = true → (b.setRequestBody req w).1.2.1.getBody = none) := by
  obtain ⟨cleanup, d, w', hsel, hcase⟩ := selectRequestBody_cases hb w
  rw [setRequestBody_of_select hsel] at hok ⊢
  rcases hcase with ⟨hmark, i, rfl⟩ | ⟨hmark, f, rfl, hf⟩
  · exact ⟨fun _ _ => hmark, fun _ => getBody_streamOnce i hok⟩
  · refine ⟨fun hg hne => absurd (RequestBodyFunc.noBody_of_getBody_none hf hok hg) hne, ?_⟩
    simp [hmark]

/-- A caller's stream sent once: the body has no `GetBody` and the marker is set. -/
theorem noRetriesRequestBody_iff_not_replayable_streamOnce :
    let b : BodyMiddleware Unit := ⟨.requestBody (requestBodyStreamOnce
      (.readCloser ⟨0, fun _ => some (.caller 0)⟩)), none, false, none, ⟨fun _ => none⟩, none⟩
    b.ValidInput ∧ (b.setRequestBody Request.fresh World.init).1.2.2 = none ∧
    (((b.setRequestBody Request.fresh World.init).1.2.1.getBody = none →
      (b.setRequestBody Request.fresh World.init).1.2.1.body ≠ some .noBody →
        b.noRetriesRequestBody = true) ∧
    (b.noRetriesRequestBody = true →
      (b.setRequestBody Request.fresh World.init).1.2.1.getBody = none)) :=
  ⟨.inr (.inr ⟨_, rfl, .streamOnce _, rfl⟩), rfl,
    noRetriesRequestBody_iff_not_replayable (.inr (.inr ⟨_, rfl, .streamOnce _, rfl⟩)) _ _ rfl⟩

/-! ## §2 Encoded bodies -/

/-- A factory or encoder call is no pool call and no call of the next round-tripper. -/
theorem ne_of_isBodyCall {c : Call} (h : c.isBodyCall) :
    c ≠ .roundTrip ∧ ∀ buf, c ≠ .poolGet buf ∧ c ≠ .poolPut buf := by
  cases c <;> simp_all [Call.isBodyCall]

/-- Choosing the body takes from the pool exactly the buffers the cleanup puts back. -/
theorem selectRequestBody_calls (b : BodyMiddleware α) (w : World) :
    ∃ cs, (b.selectRequestBody w).2.calls = w.calls ++ cs ∧ (∀ c ∈ cs, ∃ buf, c = .poolGet buf) ∧
      ∀ buf, cs.count (.poolGet buf) =
        (Cleanup.puts ((b.selectRequestBody w).1.toOption.map Prod.fst)).count (.poolPut buf) := by
  obtain ⟨input, enc, raw, out, dec, pool⟩ := b
  cases input
  case nil => cases enc <;> exact ⟨[], by simp [selectRequestBody, Except.toOption, Cleanup.puts]⟩
  all_goals cases enc with
    | none => exact ⟨[], by simp [selectRequestBody, Except.toOption, Cleanup.puts]⟩
    | some e => cases pool with
      | none => exact ⟨[], by simp [selectRequestBody, Except.toOption, Cleanup.puts]⟩
      | some pool => exact ⟨[.poolGet (pool.get w.calls)], by
          simp [selectRequestBody, Pool.getBuffer, Except.toOption, Cleanup.puts,
            List.count_singleton]⟩

/-- `setRequestBody` takes from the pool exactly the buffers its cleanup puts back,
puts none back itself, and does not call the next round-tripper. -/
theorem setRequestBody_calls (b : BodyMiddleware α) (req : Request) (w : World) :
    ∃ cs, (b.setRequestBody req w).2.calls = w.calls ++ cs ∧
      (∀ c ∈ cs, c ≠ .roundTrip ∧ ∀ buf, c ≠ .poolPut buf) ∧
      ∀ buf, cs.count (.poolGet buf) = (Cleanup.puts (b.setRequestBody req w).1.1).count (.poolPut buf) := by
  obtain ⟨gs, hgs, hg, hcount⟩ := b.selectRequestBody_calls w
  have hgs' : ∀ c ∈ gs, c ≠ .roundTrip ∧ ∀ buf, c ≠ .poolPut buf := fun c hc => by
    obtain ⟨_, rfl⟩ := hg c hc; simp
  rcases hs : b.selectRequestBody w with ⟨_ | ⟨cleanup, d⟩, w'⟩ <;> rw [hs] at hgs hcount
  · exact ⟨gs, by simpa [setRequestBody, hs] using hgs, hgs', by simpa [setRequestBody, hs] using hcount⟩
  · obtain ⟨cs, hcs, hc⟩ := d.setRequestBody_calls req w'
    refine ⟨gs ++ cs, ?_, ?_, fun buf => ?_⟩
    · rw [setRequestBody_of_select hs, hcs, hgs, List.append_assoc]
    · simp only [List.mem_append]
      rintro c (hc' | hc')
      · exact hgs' c hc'
      · exact ⟨(ne_of_isBodyCall (hc c hc')).1, fun buf => ((ne_of_isBodyCall (hc c hc')).2 buf).2⟩
    · have hzero : cs.count (.poolGet buf) = 0 :=
        List.count_eq_zero.2 fun h => ((ne_of_isBodyCall (hc _ h)).2 buf).1 rfl
      rw [List.count_append, hzero, hcount, setRequestBody_of_select hs]
      rfl

/-- `readResponse` makes at most the decoder's call. -/
theorem readResponse_calls (b : BodyMiddleware α) (resp : Option Response) (respErr : Option GoError)
    (w : World) : ∃ cs, (b.readResponse resp respErr w).2.calls = w.calls ++ cs ∧ ∀ c ∈ cs, c = .decode := by
  unfold readResponse
  split
  · exact ⟨[], by simp⟩
  · split
    · exact ⟨[], by simp⟩
    · split
      · exact ⟨[], by simp⟩
      · exact ⟨[.decode], by simp⟩
    · exact ⟨[], by simp⟩

/-- What `RoundTrip` calls after `setRequestBody`: nothing more after an error;
otherwise `next.RoundTrip`, the cleanup's `Put`s, and at most the decoder. -/
theorem roundTrip_calls_after (b : BodyMiddleware α) (req : Request) (next : RoundTripper)
    (w : World) :
    ((b.setRequestBody req w).1.2.2.isSome →
      (b.roundTrip req next w).2.calls = (b.setRequestBody req w).2.calls) ∧
    ((b.setRequestBody req w).1.2.2 = none → ∃ post,
      (b.roundTrip req next w).2.calls = (b.setRequestBody req w).2.calls ++
        .roundTrip :: (Cleanup.puts (b.setRequestBody req w).1.1 ++ post) ∧
      ∀ c ∈ post, c = .decode) := by
  unfold roundTrip
  generalize b.setRequestBody req w = r
  obtain ⟨⟨cleanup, req', _ | err⟩, w'⟩ := r
  · refine ⟨nofun, fun _ => ?_⟩
    obtain ⟨post, hpost, hdec⟩ := b.readResponse_calls (next.roundTrip req').1
      (next.roundTrip req').2 (Cleanup.run cleanup (w'.record .roundTrip))
    refine ⟨post, ?_, hdec⟩
    dsimp only
    split <;> rename_i heq <;> rw [heq] at hpost <;> simpa using hpost
  · exact ⟨fun _ => rfl, nofun⟩

/-- One `RoundTrip` takes from the pool exactly the buffers the cleanup of its
`setRequestBody` puts back, before any other call. When the body is set, it calls
`next.RoundTrip` once, then makes exactly the cleanup's `Put`s, then at most the
decoder's call. When it is not, it returns without calling `next.RoundTrip` or `Put`. -/
theorem roundTrip_returns_buffer (b : BodyMiddleware α) (req : Request) (next : RoundTripper)
    (w : World) :
    ∃ pre, (∀ c ∈ pre, c ≠ .roundTrip ∧ ∀ buf, c ≠ .poolPut buf) ∧
      (∀ buf, pre.count (.poolGet buf) =
        (Cleanup.puts (b.setRequestBody req w).1.1).count (.poolPut buf)) ∧
      ((b.setRequestBody req w).1.2.2 = none → ∃ post,
        (b.roundTrip req next w).2.calls =
          w.calls ++ pre ++ .roundTrip :: (Cleanup.puts (b.setRequestBody req w).1.1 ++ post) ∧
        ∀ c ∈ post, c = .decode) ∧
      ((b.setRequestBody req w).1.2.2.isSome → (b.roundTrip req next w).2.calls = w.calls ++ pre) := by
  obtain ⟨pre, hpre, hnot, hcount⟩ := b.setRequestBody_calls req w
  obtain ⟨herr, hok⟩ := b.roundTrip_calls_after req next w
  refine ⟨pre, hnot, hcount, fun h => ?_, fun h => by rw [herr h, hpre]⟩
  obtain ⟨post, hpost, hdec⟩ := hok h
  exact ⟨post, by rw [hpost, hpre, List.append_assoc], hdec⟩

/-- With a buffer pool and an encoder that fails on the input, `RoundTrip` returns
the encoder's error having taken buffer `0` from the pool and never put it back. -/
theorem roundTrip_keeps_buffer_on_encode_error :
    let b : BodyMiddleware Unit := ⟨.other "map[string]string" (),
      some ⟨fun _ => .ok [], fun _ => ([], some (.external 0))⟩, false, none, ⟨fun _ => none⟩,
      some ⟨fun _ => 0⟩⟩
    let out := b.roundTrip Request.fresh ⟨fun _ => (none, none)⟩ World.init
    out.1.2 = some (.external 0) ∧ out.2.calls = [.poolGet 0, .encode 0] :=
  ⟨rfl, rfl⟩

end BodyMiddleware

end ConjureRuntime.HttpClient
