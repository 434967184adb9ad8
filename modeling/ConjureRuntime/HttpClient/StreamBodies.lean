import ConjureRuntime.HttpClient.BodyTypes

/-!
# Stream Bodies

`RequestBodyStreamOnce` and `RequestBodyStreamWithReplay` wrap a caller's factory
of one of three shapes. The factory is any sequence of results (a stream or nil,
a length, an error), so the statements below cover factories with state, ones
that fail and then succeed, and every number of replays.

## Main results

- `streamBodies_setRequestBody`: both descriptors call the factory once per
  materialization and set the fields from its result; the `GetBody` of
  `RequestBodyStreamWithReplay` calls it again on every call and returns that
  call's stream and error, never an earlier one.
-/

namespace ConjureRuntime.HttpClient

open ConjureRuntime.Go

/-- `j` calls of `req.GetBody()` in a row: their results, and the world after. -/
def GetBody.callN (g : GetBody) : Nat → World → List (Option ReadCloser × Option GoError) × World
  | 0, w => ([], w)
  | j + 1, w =>
    let r := g.call w
    let rs := g.callN j r.2
    (r.1 :: rs.1, rs.2)

/-- What a materialization whose factory returned `o = (stream, length, err)` leaves:
the error, with the request unchanged; or `http.NoBody`, length `0` and no
`GetBody` for a nil stream; or the stream with `length`. -/
def SetsStreamResult (req : Request) (o : Option ReadCloser × Int × Option GoError)
    (out : Request × Option GoError) : Prop :=
  out.2 = o.2.2 ∧ (o.2.2.isSome → out.1 = req) ∧
  (o.2.2 = none → o.1 = none →
    out.1.body = some .noBody ∧ out.1.contentLength = 0 ∧ out.1.getBody = none) ∧
  (∀ b, o.2.2 = none → o.1 = some b → out.1.body = some b ∧ out.1.contentLength = o.2.1)

/-- `j` calls of the `GetBody` of `RequestBodyStreamWithReplay`, made when the factory
has been called `m` times, return the stream and error of its results `m`, `m + 1`,
..., and call it once each. -/
theorem callN_getBody (input : StreamInput) (j : Nat) : ∀ (w : World),
    (input.getBody.callN j w).1 = (List.range j).map (fun i =>
      ((input.outcome (w.factoryCalls input.id + i)).1,
        (input.outcome (w.factoryCalls input.id + i)).2.2)) ∧
    (input.getBody.callN j w).2.calls = w.calls ++ List.replicate j (.factory input.id) := by
  induction j with
  | zero => intro w; simp [GetBody.callN]
  | succ j ih =>
    intro w
    obtain ⟨h₁, h₂⟩ := ih (w.record (.factory input.id))
    simp only [GetBody.callN, call_getBody, h₁, h₂, World.factoryCalls_record, if_pos,
      List.range_succ_eq_map, List.map_cons, List.map_map, World.record_calls]
    refine ⟨by simp [Function.comp_def, Nat.add_assoc, Nat.add_comm 1], ?_⟩
    simp [List.replicate_succ]

/-- What `setRequestBody` does for the two stream descriptors, given the factory's
result `input.outcome k` for its `k`-th call. -/
private theorem setsStreamResult_of_call {f : RequestBodyFunc} {req : Request} {w : World}
    {input : StreamInput} {gb : Option GetBody}
    (h : f.call w = (⟨(input.outcome (w.factoryCalls input.id)).2.1,
      (input.outcome (w.factoryCalls input.id)).1, gb,
      (input.outcome (w.factoryCalls input.id)).2.2⟩, w.record (.factory input.id))) :
    SetsStreamResult req (input.outcome (w.factoryCalls input.id)) (f.setRequestBody req w).1 := by
  obtain ⟨_, herr, hreq, hnil, hsome⟩ := RequestBodyFunc.setRequestBody_of_call req h
  refine ⟨herr, hreq, fun he hb => by simp [hnil he hb], fun b he hb => by simp [hsome he b hb]⟩

/-- `RequestBodyStreamOnce` never sets a `GetBody`. -/
theorem getBody_streamOnce (i : StreamInput) {req : Request} {w : World}
    (hok : ((RequestBodyFunc.streamOnce i).setRequestBody req w).1.2 = none) :
    ((RequestBodyFunc.streamOnce i).setRequestBody req w).1.1.getBody = none := by
  obtain ⟨-, herr, -, hnil, hsome⟩ := RequestBodyFunc.setRequestBody_of_call req (call_streamOnce w i)
  cases hb : (i.outcome (w.factoryCalls i.id)).1 with
  | none => rw [hnil (herr ▸ hok) hb]
  | some b => rw [hsome (herr ▸ hok) b hb]

/-- Both stream descriptors call the factory exactly once per materialization and
set `Body`, `GetBody` and `ContentLength` from its result, or return its error
and set nothing. `RequestBodyStreamOnce` never sets a `GetBody`; the `GetBody` of
`RequestBodyStreamWithReplay` calls the factory once more on each call and returns
the stream and error of that call's result. -/
theorem streamBodies_setRequestBody (input : StreamInput) (req : Request) (w : World) :
    let k := w.factoryCalls input.id
    let once := (requestBodyStreamOnce input).setRequestBody req w
    let replay := (requestBodyStreamWithReplay input).setRequestBody req w
    once.2.calls = w.calls ++ [.factory input.id] ∧
    (once.1.2 = none → once.1.1.getBody = none) ∧
    SetsStreamResult req (input.outcome k) once.1 ∧
    replay.2.calls = w.calls ++ [.factory input.id] ∧
    SetsStreamResult req (input.outcome k) replay.1 ∧
    (∀ b, replay.1.2 = none → (input.outcome k).1 = some b →
      ∃ g, replay.1.1.getBody = some g ∧ ∀ j,
        (g.callN j replay.2).1 = (List.range j).map (fun i =>
          ((input.outcome (k + 1 + i)).1, (input.outcome (k + 1 + i)).2.2)) ∧
        (g.callN j replay.2).2.calls = replay.2.calls ++ List.replicate j (.factory input.id)) := by
  intro k once replay
  have honce := RequestBodyFunc.setRequestBody_of_call req (call_streamOnce w input)
  have hrep := RequestBodyFunc.setRequestBody_of_call req (call_streamWithReplay w input)
  refine ⟨by simp [once, requestBodyStreamOnce, RequestBody.setRequestBody, honce.1],
    getBody_streamOnce input,
    setsStreamResult_of_call (call_streamOnce w input),
    by simp [replay, requestBodyStreamWithReplay, RequestBody.setRequestBody, hrep.1],
    setsStreamResult_of_call (call_streamWithReplay w input), ?_⟩
  intro b hok hb
  obtain ⟨hw, herr, -, -, hsome⟩ := hrep
  refine ⟨input.getBody, by
    simp [replay, requestBodyStreamWithReplay, RequestBody.setRequestBody, hsome (herr ▸ hok) b hb],
    fun j => ?_⟩
  rw [show replay.2 = w.record (.factory input.id) from hw]
  obtain ⟨h₁, h₂⟩ := callN_getBody input j (w.record (.factory input.id))
  exact ⟨by simpa [Nat.add_assoc] using h₁, h₂⟩

end ConjureRuntime.HttpClient
