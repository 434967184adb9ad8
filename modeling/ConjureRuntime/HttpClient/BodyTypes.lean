import ConjureRuntime.HttpClient.World

/-!
# Request Bodies (`body_types.go`)

A `RequestBody` sets `Body`, `GetBody` and `ContentLength` on an `*http.Request`.
Go builds it from closures; here each closure is a constructor of an inductive
type carrying what it captured, and running the closure is a function on it
(`RequestBodyFunc.call`, `GetBody.call`). The marker type `noRetriesRequestBody`
is the `RequestBody.noRetries` constructor.

## Main definitions

- `RequestBodyFunc.setRequestBody`: `requestBodyFunc.setRequestBody`.
- `requestBodyEmpty`, `requestBodyInMemory`, `requestBodyStreamOnce`,
  `requestBodyStreamWithReplay`, `requestBodyEncoderObject`,
  `requestBodyEncoderObjectBuffer`: the constructors.

## Main results

One equation per constructor for what `setRequestBody` does (`setRequestBody_*`),
which the later files use instead of unfolding the closures.
-/

namespace ConjureRuntime.HttpClient

open ConjureRuntime.Go

/-! ## §1 Closures -/

/-- The three function types `requestBodyStreamInput` allows, each given by the
results of its successive calls. A nil function is not modelled: `any(input)` of a
nil function is not a nil interface, so Go calls it and panics. -/
inductive StreamInput where
  /-- `func() io.ReadCloser`. -/
  | readCloser (v : Factory (Option ReadCloser))
  /-- `func() (io.ReadCloser, error)`. -/
  | readCloserErr (v : Factory (Option ReadCloser × Option GoError))
  /-- `func() (io.ReadCloser, int64, error)`. -/
  | readCloserLenErr (v : Factory (Option ReadCloser × Int × Option GoError))

/-- The identity of the factory behind a stream input. -/
def StreamInput.id : StreamInput → Nat
  | .readCloser v => v.id
  | .readCloserErr v => v.id
  | .readCloserLenErr v => v.id

/-- The stream, length and error of the factory's `k`-th result, with `-1` for the
shapes that report no length and no error for the shape that reports none, as the
`switch` of `RequestBodyStreamOnce` reads them. -/
def StreamInput.outcome : StreamInput → Nat → Option ReadCloser × Int × Option GoError
  | .readCloser v, k => (v.results k, -1, none)
  | .readCloserErr v, k => ((v.results k).1, -1, (v.results k).2)
  | .readCloserLenErr v, k => v.results k

/-- The functions a `GetBody` field holds. -/
inductive GetBody where
  /-- `RequestBodyInMemory`: `r := snapshot; return io.NopCloser(&r), nil`. -/
  | snapshot (snapshot : InMemory)
  /-- The encoder bodies: `return io.NopCloser(bytes.NewReader(raw)), nil`. -/
  | raw (raw : Bytes)
  /-- `RequestBodyStreamWithReplay` of a `func() io.ReadCloser`: `return v(), nil`. -/
  | readCloser (v : Factory (Option ReadCloser))
  /-- `RequestBodyStreamWithReplay` of a `func() (io.ReadCloser, error)`: `v` itself. -/
  | readCloserErr (v : Factory (Option ReadCloser × Option GoError))
  /-- `RequestBodyStreamWithReplay` of a `func() (io.ReadCloser, int64, error)`:
  `b, _, e := v(); return b, e`. -/
  | readCloserLenErr (v : Factory (Option ReadCloser × Int × Option GoError))

/-- Calling `req.GetBody()`. -/
def GetBody.call : GetBody → World → (Option ReadCloser × Option GoError) × World
  | .snapshot r, w => ((some (.nopCloser r), none), w)
  | .raw bs, w => ((some (.nopCloser (.bytesReader (SliceReader.new bs))), none), w)
  | .readCloser v, w => let (b, w) := v.call w; ((b, none), w)
  | .readCloserErr v, w => v.call w
  | .readCloserLenErr v, w => let ((b, _, e), w) := v.call w; ((b, e), w)

/-- The `GetBody` `RequestBodyStreamWithReplay` sets for a factory. -/
def StreamInput.getBody : StreamInput → GetBody
  | .readCloser v => .readCloser v
  | .readCloserErr v => .readCloserErr v
  | .readCloserLenErr v => .readCloserLenErr v

/-- The fields of `*http.Request` a request body sets. -/
structure Request where
  contentLength : Int
  body : Option ReadCloser
  getBody : Option GetBody

/-- `&http.Request{}`. -/
def Request.fresh : Request := ⟨0, none, none⟩

/-- What a `requestBodyFunc` returns: `(length, body, getBody, err)`. -/
structure BodyFuncResult where
  length : Int
  body : Option ReadCloser
  getBody : Option GetBody
  err : Option GoError

/-- `contentLengthInMemory(input)`: `Len()` of `*input`, `0` for a nil pointer. -/
def contentLengthInMemory (w : World) : Option InMemoryPtr → Int
  | none => 0
  | some p => (w.deref p).len

/-- The `requestBodyFunc` closures the constructors build. -/
inductive RequestBodyFunc where
  /-- `RequestBodyEmpty()`. -/
  | empty
  /-- `RequestBodyInMemory(input)`; `none` is a nil pointer. -/
  | inMemory (input : Option InMemoryPtr)
  /-- `RequestBodyStreamOnce(input)`. -/
  | streamOnce (input : StreamInput)
  /-- `RequestBodyStreamWithReplay(input)`. -/
  | streamWithReplay (input : StreamInput)
  /-- `RequestBodyEncoderObject(input, encoder)`: the closure calls
  `encoder.Marshal(input)`, whose result the encoder fixes. -/
  | encoderObject (marshal : Except GoError Bytes)
  /-- `RequestBodyEncoderObjectBuffer(input, encoder, buffer)`: the closure calls
  `encoder.Encode(buffer, input)`, which writes `encode.1` and returns `encode.2`. -/
  | encoderObjectBuffer (encode : Bytes × Option GoError) (buffer : Nat)

/-- Running a `requestBodyFunc` closure: `f()`. -/
def RequestBodyFunc.call : RequestBodyFunc → World → BodyFuncResult × World
  | .empty, w => (⟨0, some .noBody, none, none⟩, w)
  | .inMemory none, w => (⟨0, none, none, none⟩, w)
  | .inMemory (some p), w =>
    let contentLen := contentLengthInMemory w (some p)
    let getBody := GetBody.snapshot (w.deref p)
    let ((firstBody, _), w) := getBody.call w
    (⟨contentLen, firstBody, some getBody, none⟩, w)
  | .streamOnce (.readCloser v), w =>
    let (body, w) := v.call w; (⟨-1, body, none, none⟩, w)
  | .streamOnce (.readCloserErr v), w =>
    let ((body, err), w) := v.call w; (⟨-1, body, none, err⟩, w)
  | .streamOnce (.readCloserLenErr v), w =>
    let ((body, contentLen, err), w) := v.call w; (⟨contentLen, body, none, err⟩, w)
  | .streamWithReplay (.readCloser v), w =>
    let (body, w) := v.call w; (⟨-1, body, some (.readCloser v), none⟩, w)
  | .streamWithReplay (.readCloserErr v), w =>
    let ((body, err), w) := v.call w; (⟨-1, body, some (.readCloserErr v), err⟩, w)
  | .streamWithReplay (.readCloserLenErr v), w =>
    let ((body, contentLen, err), w) := v.call w
    (⟨contentLen, body, some (.readCloserLenErr v), err⟩, w)
  | .encoderObject marshal, w =>
    let w := w.record .marshal
    match marshal with
    | .error err => (⟨0, none, none, some err⟩, w)
    | .ok raw =>
      let getBody := GetBody.raw raw
      let ((body, _), w) := getBody.call w
      (⟨raw.length, body, some getBody, none⟩, w)
  | .encoderObjectBuffer (written, err) buffer, w =>
    let w := (w.record (.encode buffer)).writeBuffer buffer written
    match err with
    | some err => (⟨0, none, none, some err⟩, w)
    | none =>
      let raw := (w.buffers buffer).bytes
      let getBody := GetBody.raw raw
      let ((body, _), w) := getBody.call w
      (⟨raw.length, body, some getBody, none⟩, w)

/-- `requestBodyFunc.setRequestBody(req)`: on an error nothing is set; a nil body
becomes `http.NoBody` with length `0` and no `GetBody`. -/
def RequestBodyFunc.setRequestBody (f : RequestBodyFunc) (req : Request) (w : World) :
    (Request × Option GoError) × World :=
  let (r, w) := f.call w
  match r.err, r.body with
  | some err, _ => ((req, some err), w)
  | none, none => (({ req with contentLength := 0, body := some .noBody, getBody := none }, none), w)
  | none, some body =>
    (({ req with contentLength := r.length, body := some body, getBody := r.getBody }, none), w)

/-- The values implementing `RequestBody`: a `requestBodyFunc`, or one embedded in
the marker type `noRetriesRequestBody`. -/
inductive RequestBody where
  | func (f : RequestBodyFunc)
  | noRetries (f : RequestBodyFunc)

/-- `setRequestBody`; the marker type promotes the method of the function it embeds. -/
def RequestBody.setRequestBody : RequestBody → Request → World → (Request × Option GoError) × World
  | .func f | .noRetries f => f.setRequestBody

/-! ## §2 Constructors -/

/-- `RequestBodyEmpty()`. -/
def requestBodyEmpty : RequestBody := .func .empty

/-- `RequestBodyInMemory(input)`. -/
def requestBodyInMemory (input : Option InMemoryPtr) : RequestBody := .func (.inMemory input)

/-- `RequestBodyStreamOnce(input)`. -/
def requestBodyStreamOnce (input : StreamInput) : RequestBody := .noRetries (.streamOnce input)

/-- `RequestBodyStreamWithReplay(input)`. -/
def requestBodyStreamWithReplay (input : StreamInput) : RequestBody :=
  .func (.streamWithReplay input)

/-- `RequestBodyEncoderObject(input, encoder)`. -/
def requestBodyEncoderObject {α : Type} (input : α) (encoder : Encoder α) : RequestBody :=
  .func (.encoderObject (encoder.marshal input))

/-- `RequestBodyEncoderObjectBuffer(input, encoder, buffer)`. -/
def requestBodyEncoderObjectBuffer {α : Type} (input : α) (encoder : Encoder α) (buffer : Nat) :
    RequestBody :=
  .func (.encoderObjectBuffer (encoder.encode input) buffer)

/-- `RetrieveReaderFromRequestBody(body)`: sets the body on a fresh request and
returns its `Body` and `ContentLength`. -/
def retrieveReaderFromRequestBody (body : RequestBody) (w : World) :
    (Option ReadCloser × Int × Option GoError) × World :=
  let ((req, err), w) := body.setRequestBody Request.fresh w
  match err with
  | some err => ((none, 0, some err), w)
  | none => ((req.body, req.contentLength, none), w)

/-- The descriptors the package's constructors build. -/
inductive RequestBody.Built : RequestBody → Prop
  | empty : Built requestBodyEmpty
  | inMemory (input : Option InMemoryPtr) : Built (requestBodyInMemory input)
  | streamOnce (input : StreamInput) : Built (requestBodyStreamOnce input)
  | streamWithReplay (input : StreamInput) : Built (requestBodyStreamWithReplay input)
  | encoderObject {α : Type} (input : α) (encoder : Encoder α) :
      Built (requestBodyEncoderObject input encoder)
  | encoderObjectBuffer {α : Type} (input : α) (encoder : Encoder α) (buffer : Nat) :
      Built (requestBodyEncoderObjectBuffer input encoder buffer)

/-! ## §3 What each constructor sets -/

/-- What `requestBodyFunc.setRequestBody` does with the closure's result `r`: an
error is returned with nothing set, a nil body becomes `http.NoBody`. -/
theorem RequestBodyFunc.setRequestBody_of_call {f : RequestBodyFunc} (req : Request) {w w' : World}
    {r : BodyFuncResult} (h : f.call w = (r, w')) :
    (f.setRequestBody req w).2 = w' ∧ (f.setRequestBody req w).1.2 = r.err ∧
    (r.err.isSome → (f.setRequestBody req w).1.1 = req) ∧
    (r.err = none → r.body = none →
      (f.setRequestBody req w).1.1 = ⟨0, some .noBody, none⟩) ∧
    (r.err = none → ∀ b, r.body = some b →
      (f.setRequestBody req w).1.1 = ⟨r.length, some b, r.getBody⟩) := by
  obtain ⟨len, body, getBody, err⟩ := r
  cases err <;> cases body <;> simp [setRequestBody, h]

section Equations

variable (req : Request) (w : World)

theorem setRequestBody_empty :
    requestBodyEmpty.setRequestBody req w = ((⟨0, some .noBody, none⟩, none), w) := rfl

theorem setRequestBody_inMemory_nil :
    (requestBodyInMemory none).setRequestBody req w = ((⟨0, some .noBody, none⟩, none), w) := rfl

theorem setRequestBody_inMemory (p : InMemoryPtr) :
    (requestBodyInMemory (some p)).setRequestBody req w =
      ((⟨(w.deref p).len, some (.nopCloser (w.deref p)), some (.snapshot (w.deref p))⟩, none), w) :=
  rfl

theorem setRequestBody_encoderObject {α : Type} (input : α) (encoder : Encoder α) :
    (requestBodyEncoderObject input encoder).setRequestBody req w =
      match encoder.marshal input with
      | .error err => ((req, some err), w.record .marshal)
      | .ok raw => ((⟨raw.length, some (.nopCloser (.bytesReader (SliceReader.new raw))),
          some (.raw raw)⟩, none), w.record .marshal) := by
  unfold requestBodyEncoderObject
  cases encoder.marshal input <;> rfl

theorem setRequestBody_encoderObjectBuffer {α : Type} (input : α) (encoder : Encoder α)
    (buffer : Nat) :
    (requestBodyEncoderObjectBuffer input encoder buffer).setRequestBody req w =
      let w' := (w.record (.encode buffer)).writeBuffer buffer (encoder.encode input).1
      match (encoder.encode input).2 with
      | some err => ((req, some err), w')
      | none =>
        let raw := (w.buffers buffer).bytes ++ (encoder.encode input).1
        ((⟨raw.length, some (.nopCloser (.bytesReader (SliceReader.new raw))), some (.raw raw)⟩,
          none), w') := by
  unfold requestBodyEncoderObjectBuffer
  rcases encoder.encode input with ⟨written, _ | err⟩ <;>
    simp [RequestBody.setRequestBody,
      RequestBodyFunc.setRequestBody, RequestBodyFunc.call, GetBody.call]

theorem call_streamOnce (input : StreamInput) :
    (RequestBodyFunc.streamOnce input).call w =
      (⟨(input.outcome (w.factoryCalls input.id)).2.1, (input.outcome (w.factoryCalls input.id)).1,
        none, (input.outcome (w.factoryCalls input.id)).2.2⟩, w.record (.factory input.id)) := by
  cases input <;> rfl

theorem call_streamWithReplay (input : StreamInput) :
    (RequestBodyFunc.streamWithReplay input).call w =
      (⟨(input.outcome (w.factoryCalls input.id)).2.1, (input.outcome (w.factoryCalls input.id)).1,
        some input.getBody, (input.outcome (w.factoryCalls input.id)).2.2⟩,
        w.record (.factory input.id)) := by
  cases input <;> rfl

/-- A `GetBody` of `RequestBodyStreamWithReplay` calls the factory once and returns
the stream and error of its next result. -/
theorem call_getBody (input : StreamInput) :
    input.getBody.call w =
      (((input.outcome (w.factoryCalls input.id)).1, (input.outcome (w.factoryCalls input.id)).2.2),
        w.record (.factory input.id)) := by
  cases input <;> rfl

end Equations

/-- A materialization calls the descriptor's factory or encoder, and nothing else. -/
theorem RequestBodyFunc.call_calls (f : RequestBodyFunc) (w : World) :
    ∃ cs, (f.call w).2.calls = w.calls ++ cs ∧ ∀ c ∈ cs, c.isBodyCall := by
  cases f with
  | empty => exact ⟨[], by simp [call]⟩
  | inMemory input => cases input <;> exact ⟨[], by simp [call, GetBody.call]⟩
  | streamOnce input => exact ⟨[.factory input.id], by simp [call_streamOnce, Call.isBodyCall]⟩
  | streamWithReplay input =>
    exact ⟨[.factory input.id], by simp [call_streamWithReplay, Call.isBodyCall]⟩
  | encoderObject m =>
    cases m <;> exact ⟨[.marshal], by simp [call, GetBody.call, Call.isBodyCall]⟩
  | encoderObjectBuffer e buffer =>
    obtain ⟨written, _ | err⟩ := e <;>
      exact ⟨[.encode buffer], by simp [call, GetBody.call, Call.isBodyCall]⟩

theorem RequestBody.setRequestBody_calls (d : RequestBody) (req : Request) (w : World) :
    ∃ cs, (d.setRequestBody req w).2.calls = w.calls ++ cs ∧ ∀ c ∈ cs, c.isBodyCall := by
  obtain ⟨f, rfl | rfl⟩ : ∃ f, d = .func f ∨ d = .noRetries f := by
    cases d with
    | func f => exact ⟨f, .inl rfl⟩
    | noRetries f => exact ⟨f, .inr rfl⟩
  all_goals
    obtain ⟨cs, hcs, hc⟩ := f.call_calls w
    exact ⟨cs, hcs ▸ congrArg World.calls (@RequestBodyFunc.setRequestBody_of_call f req w _ _ rfl).1,
      hc⟩

end ConjureRuntime.HttpClient
