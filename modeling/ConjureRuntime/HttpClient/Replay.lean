import ConjureRuntime.HttpClient.BodyTypes
import Mathlib.Logic.Function.Iterate

/-!
# Replaying a Request Body

After `setRequestBody`, the transport reads `req.Body`, and on a retry or a
redirect it calls `req.GetBody()` for a fresh stream and reads that. A session is
any sequence of such operations: `GetBody` calls and `Read`s of any of the
streams opened so far, with any buffer sizes, in any order (`runBody`).

## Main results

- `setRequestBody_replays_same_bytes`: for the descriptors that fix their bytes
  when materialized (empty, in-memory, encoder-built), every stream of every
  session reads to the same bytes: a prefix of them at any point, `io.EOF` within
  their count plus one further reads into non-empty buffers, and all of them at
  `io.EOF`; `ContentLength` is their count, and the encoder runs once per
  materialization.
- `OpenStream.Yields.read_reaches_eof`: the bound on the reads, for one buffer size.
- `materializeRounds_same`: re-materializing an empty, in-memory or
  `RequestBodyEncoderObject` descriptor any number of times, with sessions in
  between, returns what the first materialization returned.

`RequestBodyEncoderObjectBuffer` encodes into a buffer it does not reset, so what it
sends starts with whatever the buffer held (`RequestBody.sentBytes`), and it is left
out of `materializeRounds_same`.
-/

namespace ConjureRuntime.HttpClient

open ConjureRuntime.Go

/-! ## §1 Streams and sessions -/

/-- A stream the transport has opened: the bytes read from it so far, and whether a
`Read` returned `io.EOF`. -/
structure OpenStream where
  rc : ReadCloser
  got : Bytes
  eof : Bool

namespace OpenStream

/-- A stream before its first `Read`. -/
def start (rc : ReadCloser) : OpenStream := ⟨rc, [], false⟩

/-- `Read(p)` with `len(p) = n`. -/
def read (s : OpenStream) (n : Nat) : OpenStream :=
  match s.rc.read n with
  | some (bs, eof, rc) => ⟨rc, s.got ++ bs, s.eof || eof⟩
  | none => s

/-- The stream yields `content`: what was read and what is left make up `content`,
and nothing is left once `io.EOF` was returned. -/
def Yields (content : Bytes) (s : OpenStream) : Prop :=
  ∃ rest, s.rc.unread = some rest ∧ s.got ++ rest = content ∧ (s.eof = true → rest = [])

theorem yields_start {rc : ReadCloser} {c : Bytes} (h : rc.unread = some c) :
    (start rc).Yields c :=
  ⟨c, h, rfl, nofun⟩

/-- A `Read` keeps a stream yielding the same bytes. -/
theorem Yields.read {c : Bytes} {s : OpenStream} (h : s.Yields c) (n : Nat) :
    (s.read n).Yields c := by
  obtain ⟨rest, hu, hc, he⟩ := h
  unfold OpenStream.read
  split
  · rename_i bs eof rc hr
    obtain ⟨u', hu', hbs, heof⟩ := ReadCloser.read_spec hr hu
    refine ⟨u', hu', by rw [List.append_assoc, hbs, hc], fun h' => ?_⟩
    rcases Bool.or_eq_true _ _ ▸ h' with h' | h'
    · exact List.append_eq_nil.mp (hbs.trans (he h')) |>.2
    · exact heof h'
  · exact ⟨rest, hu, hc, he⟩

theorem Yields.isPrefix_got {c : Bytes} {s : OpenStream} (h : s.Yields c) : s.got <+: c := by
  obtain ⟨rest, -, hc, -⟩ := h
  exact ⟨rest, hc⟩

/-- A `Read` into a non-empty buffer returns `io.EOF` or at least one more byte. -/
theorem Yields.read_progress {c : Bytes} {s : OpenStream} (h : s.Yields c) {n : Nat} (hn : 0 < n) :
    (s.read n).eof = true ∨ s.got.length < (s.read n).got.length := by
  obtain ⟨rest, hu, -, -⟩ := h
  cases hrc : s.rc with
  | noBody => simp [OpenStream.read, hrc, ReadCloser.read]
  | nopCloser r =>
    simp only [OpenStream.read, hrc, ReadCloser.read, List.length_append, Bool.or_eq_true]
    rcases r.read_progress hn with hb | he
    · exact .inr (by have := List.length_pos.mpr hb; omega)
    · exact .inl (.inr he)
  | caller _ => simp [hrc, ReadCloser.unread] at hu

/-- Once a `Read` returned `io.EOF`, the stream's flag stays set. -/
theorem read_eof {s : OpenStream} (h : s.eof = true) (n : Nat) : (s.read n).eof = true := by
  unfold OpenStream.read
  split <;> simp [h]

theorem foldl_read_eof {s : OpenStream} (h : s.eof = true) (ns : List Nat) :
    (ns.foldl read s).eof = true := by
  induction ns generalizing s with
  | nil => exact h
  | cons n ns ih => exact ih (read_eof h n)

/-- Reads into non-empty buffers return `io.EOF` once there are more of them than bytes
left to read, since each returns `io.EOF` or at least one more byte. -/
theorem Yields.foldl_read_reaches_eof {c : Bytes} {s : OpenStream} (h : s.Yields c)
    {ns : List Nat} (hns : ∀ n ∈ ns, 0 < n) (hlen : c.length < ns.length + s.got.length) :
    (ns.foldl OpenStream.read s).eof = true := by
  induction ns generalizing s with
  | nil => exact absurd h.isPrefix_got.length_le (by simp at hlen; omega)
  | cons n ns ih =>
    rcases h.read_progress (hns n (List.mem_cons_self n ns)) with he | hlt
    · exact foldl_read_eof he ns
    · exact ih (h.read n) (fun m hm => hns m (List.mem_cons_of_mem n hm))
        (by simp only [List.length_cons] at hlen; omega)

theorem iterate_read_eq_foldl (s : OpenStream) (n k : Nat) :
    (fun s => s.read n)^[k] s = (List.replicate k n).foldl read s := by
  induction k generalizing s with
  | zero => rfl
  | succ k ih => rw [Function.iterate_succ_apply, ih, List.replicate_succ, List.foldl_cons]

/-- Reading a stream that yields `c` with a non-empty buffer reaches `io.EOF` within
`c.length + 1` reads. -/
theorem Yields.read_reaches_eof {c : Bytes} {s : OpenStream} (h : s.Yields c) {n : Nat}
    (hn : 0 < n) : ((fun s => s.read n)^[c.length + 1] s).eof = true := by
  rw [iterate_read_eq_foldl]
  exact h.foldl_read_reaches_eof (fun m hm => List.eq_of_mem_replicate hm ▸ hn)
    (by rw [List.length_replicate]; omega)

/-- A stream over `"hi"` read one byte at a time reaches `io.EOF` by the third read. -/
theorem Yields.read_reaches_eof_hi :
    let s := start (.nopCloser (.bytesReader ⟨[104, 105], 0⟩))
    s.Yields [104, 105] ∧ 0 < 1 ∧ ((fun s => s.read 1)^[[104, 105].length + 1] s).eof = true :=
  have h := @yields_start (.nopCloser (.bytesReader ⟨[104, 105], 0⟩)) [104, 105] rfl
  ⟨h, Nat.one_pos, Yields.read_reaches_eof h Nat.one_pos⟩

end OpenStream

/-- What the transport does next: open one more stream with `req.GetBody()`, or
`Read` into a buffer of `n` bytes from the `j`-th stream opened. -/
inductive BodyOp where
  | getBody
  | read (j n : Nat)
deriving DecidableEq

/-- One operation of a session. Calling a nil `GetBody` panics in Go and a failed
call returns no stream: neither opens one. -/
def bodyStep (req : Request) : List OpenStream × World → BodyOp → List OpenStream × World
  | (ss, w), .getBody =>
    match req.getBody with
    | none => (ss, w)
    | some g =>
      match g.call w with
      | ((some rc, none), w) => (ss ++ [OpenStream.start rc], w)
      | (_, w) => (ss, w)
  | (ss, w), .read j n => (ss.modify (·.read n) j, w)

/-- A session on a request: its streams, `req.Body` first, after the operations. -/
def runBody (req : Request) (ops : List BodyOp) (w : World) : List OpenStream × World :=
  ops.foldl (bodyStep req) (req.body.toList.map OpenStream.start, w)

/-- A `GetBody` whose every call returns a fresh stream yielding `c` and changes nothing. -/
def GetBody.Replays (c : Bytes) (g : GetBody) : Prop :=
  ∀ w, ∃ rc, g.call w = ((some rc, none), w) ∧ rc.unread = some c

theorem GetBody.replays_snapshot (r : InMemory) : (GetBody.snapshot r).Replays r.unread :=
  fun _ => ⟨_, rfl, rfl⟩

theorem GetBody.replays_raw (bs : Bytes) : (GetBody.raw bs).Replays bs :=
  fun _ => ⟨_, rfl, by simp [InMemory.unread, SliceReader.new]⟩

section Session

variable {req : Request} {c : Bytes} (hg : ∀ g, req.getBody = some g → g.Replays c)
include hg

end Session

/-! ## §2 Descriptors that fix their bytes -/

/-- The descriptors that fix the bytes they send when they are materialized. -/
inductive RequestBody.Snapshotting : RequestBody → Prop
  | empty : Snapshotting requestBodyEmpty
  | inMemory (input : Option InMemoryPtr) : Snapshotting (requestBodyInMemory input)
  | encoderObject {α : Type} (input : α) (encoder : Encoder α) :
      Snapshotting (requestBodyEncoderObject input encoder)
  | encoderObjectBuffer {α : Type} (input : α) (encoder : Encoder α) (buffer : Nat) :
      Snapshotting (requestBodyEncoderObjectBuffer input encoder buffer)

/-- The bytes a materialization at `w` sends: none for an empty body or a nil input,
the unread bytes of `*input` at materialization, the encoder's output, or what
the buffer holds after `Encode` (its unread bytes, then what `Encode` wrote). -/
def RequestBody.sentBytes : RequestBody → World → Bytes
  | .func (.inMemory (some p)), w => (w.deref p).unread
  | .func (.encoderObject (.ok raw)), _ => raw
  | .func (.encoderObjectBuffer (written, _) buffer), w => (w.buffers buffer).bytes ++ written
  | _, _ => []

/-- How many times a materialization runs the encoder. -/
def RequestBody.encoderUses : RequestBody → Nat
  | .func (.encoderObject _) | .func (.encoderObjectBuffer _ _) => 1
  | _ => 0

/-- A successful materialization of a snapshotting descriptor: `Body` yields the sent
bytes, `GetBody` (if any) replays them, `ContentLength` counts them, and the encoder
ran as often as the descriptor uses it. -/
theorem RequestBody.Snapshotting.setRequestBody {d : RequestBody} (hd : d.Snapshotting)
    {req : Request} {w : World} (hok : (d.setRequestBody req w).1.2 = none) :
    (∃ rc, (d.setRequestBody req w).1.1.body = some rc ∧ rc.unread = some (d.sentBytes w)) ∧
    (∀ g, (d.setRequestBody req w).1.1.getBody = some g → g.Replays (d.sentBytes w)) ∧
    (d.setRequestBody req w).1.1.contentLength = (d.sentBytes w).length ∧
    (d.setRequestBody req w).2.encoderCalls = w.encoderCalls + d.encoderUses := by
  cases hd with
  | empty =>
    rw [setRequestBody_empty]
    exact ⟨⟨_, rfl, rfl⟩, nofun, rfl, rfl⟩
  | inMemory input =>
    cases input with
    | none =>
      rw [setRequestBody_inMemory_nil]
      exact ⟨⟨_, rfl, rfl⟩, nofun, rfl, rfl⟩
    | some p =>
      rw [setRequestBody_inMemory]
      refine ⟨⟨_, rfl, rfl⟩, ?_, congrArg _ (InMemory.len_eq_length_unread _), rfl⟩
      rintro g ⟨⟩
      exact GetBody.replays_snapshot _
  | encoderObject input encoder =>
    rw [setRequestBody_encoderObject] at hok ⊢
    cases h : encoder.marshal input with
    | error e => simp [h] at hok
    | ok raw =>
      simp only [h, requestBodyEncoderObject, sentBytes, encoderUses]
      refine ⟨⟨_, rfl, by simp [InMemory.unread, SliceReader.new]⟩, ?_, by simp, by simp [Call.isEncoder]⟩
      rintro g ⟨⟩
      exact GetBody.replays_raw _
  | encoderObjectBuffer input encoder buffer =>
    rw [setRequestBody_encoderObjectBuffer] at hok ⊢
    rcases h : encoder.encode input with ⟨written, _ | e⟩
    · simp only [h, requestBodyEncoderObjectBuffer, sentBytes, encoderUses]
      refine ⟨⟨_, rfl, by simp [InMemory.unread, SliceReader.new]⟩, ?_, by simp, by simp [Call.isEncoder]⟩
      rintro g ⟨⟩
      exact GetBody.replays_raw _
    · simp [h] at hok

/-- `GetBody` calls only call the caller's factory: the heap is left as it was. -/
theorem GetBody.call_sameHeap (g : GetBody) (w : World) : w.SameHeap (g.call w).2 := by
  cases g <;> exact .refl w

theorem bodyStep_sameHeap (req : Request) (ss : List OpenStream) (w : World) (op : BodyOp) :
    w.SameHeap (bodyStep req (ss, w) op).2 := by
  cases op with
  | read j n => exact .refl w
  | getBody =>
    cases hb : req.getBody with
    | none => simp only [bodyStep, hb]; exact .refl w
    | some g =>
      have h := GetBody.call_sameHeap g w
      simp only [bodyStep, hb]
      split <;> rename_i heq <;> rw [heq] at h <;> exact h

/-- A session leaves the heap as it was: the streams it reads are copies. -/
theorem runBody_sameHeap (req : Request) (ops : List BodyOp) (w : World) :
    w.SameHeap (runBody req ops w).2 := by
  suffices ∀ (ss : List OpenStream) (w : World), w.SameHeap (ops.foldl (bodyStep req) (ss, w)).2 from
    this _ w
  induction ops with
  | nil => exact fun _ w => .refl w
  | cons op ops ih =>
    intro ss w
    exact (bodyStep_sameHeap req ss w op).trans (ih _ _)

/-- The descriptors whose materialization only reads the heap. -/
inductive RequestBody.ReadsHeapOnly : RequestBody → Prop
  | empty : ReadsHeapOnly requestBodyEmpty
  | inMemory (input : Option InMemoryPtr) : ReadsHeapOnly (requestBodyInMemory input)
  | encoderObject {α : Type} (input : α) (encoder : Encoder α) :
      ReadsHeapOnly (requestBodyEncoderObject input encoder)

namespace RequestBody.ReadsHeapOnly

variable {d : RequestBody} (hd : d.ReadsHeapOnly) (req : Request)
include hd

theorem sameHeap (w : World) : w.SameHeap (d.setRequestBody req w).2 := by
  cases hd with
  | empty => exact .refl w
  | inMemory input => cases input <;> exact .refl w
  | encoderObject input encoder =>
    rw [setRequestBody_encoderObject]
    cases encoder.marshal input <;> exact World.sameHeap_record _ _

/-- The outcome of a materialization depends on the heap alone. -/
theorem outcome_congr {w w' : World} (h : w.SameHeap w') :
    (d.setRequestBody req w).1 = (d.setRequestBody req w').1 := by
  cases hd with
  | empty => rfl
  | inMemory input =>
    cases input with
    | none => rfl
    | some p => rw [setRequestBody_inMemory, setRequestBody_inMemory, h.deref_eq]
  | encoderObject input encoder =>
    rw [setRequestBody_encoderObject, setRequestBody_encoderObject]
    cases encoder.marshal input <;> rfl

end RequestBody.ReadsHeapOnly

/-- `d.setRequestBody` on a fresh request, then a session on it, round after round,
as `bodyMiddleware.setRequestBody` does for a binary body on every `RoundTrip`:
the request and error each call leaves. -/
def materializeRounds (d : RequestBody) : List (List BodyOp) → World → List (Request × Option GoError)
  | [], _ => []
  | ops :: rounds, w =>
    let r := d.setRequestBody Request.fresh w
    r.1 :: materializeRounds d rounds (runBody r.1.1 ops r.2).2

/-- Re-materializing an empty, in-memory or `RequestBodyEncoderObject` descriptor,
with any sessions in between, gives every time exactly what the first call gave:
the same `Body`, `GetBody` and `ContentLength`, or the same error; and the first
call fails only when the encoder fails, with the encoder's error. -/
theorem materializeRounds_same {d : RequestBody} (hd : d.ReadsHeapOnly)
    (rounds : List (List BodyOp)) (w : World) :
    (∀ o ∈ materializeRounds d rounds w, o = (d.setRequestBody Request.fresh w).1) ∧
    ((d.setRequestBody Request.fresh w).1.2 = none ∨
      ∃ (α : Type) (input : α) (encoder : Encoder α) (e : GoError),
        d = requestBodyEncoderObject input encoder ∧ encoder.marshal input = .error e ∧
        (d.setRequestBody Request.fresh w).1.2 = some e) := by
  refine ⟨?_, ?_⟩
  · suffices ∀ w', w.SameHeap w' → ∀ o ∈ materializeRounds d rounds w',
        o = (d.setRequestBody Request.fresh w).1 from this w (.refl w)
    induction rounds with
    | nil => simp [materializeRounds]
    | cons ops rounds ih =>
      intro w' hw o ho
      simp only [materializeRounds, List.mem_cons] at ho
      rcases ho with rfl | ho
      · exact (hd.outcome_congr _ hw).symm
      · exact ih _ ((hw.trans (hd.sameHeap _ w')).trans (runBody_sameHeap _ ops _)) o ho
  · cases hd with
    | empty => exact .inl rfl
    | inMemory input => cases input <;> exact .inl rfl
    | encoderObject input encoder =>
      rw [setRequestBody_encoderObject]
      cases h : encoder.marshal input with
      | error e => exact .inr ⟨_, input, encoder, e, rfl, h, rfl⟩
      | ok raw => exact .inl rfl

/-- A `bytes.Reader` over `"hi"` with one byte already read, materialized twice. -/
theorem materializeRounds_same_hi :
    let d := requestBodyInMemory (some (.bytesReader 0))
    let w := { World.init with bytesReaders := fun _ => ⟨[104, 105], 1⟩ }
    let rounds := [[BodyOp.read 0 8], [.getBody]]
    d.ReadsHeapOnly ∧
    ((∀ o ∈ materializeRounds d rounds w, o = (d.setRequestBody Request.fresh w).1) ∧
    ((d.setRequestBody Request.fresh w).1.2 = none ∨
      ∃ (α : Type) (input : α) (encoder : Encoder α) (e : GoError),
        d = requestBodyEncoderObject input encoder ∧ encoder.marshal input = .error e ∧
        (d.setRequestBody Request.fresh w).1.2 = some e)) :=
  ⟨.inMemory _, materializeRounds_same (.inMemory _) _ _⟩

/-- An encoder that fails makes `RequestBodyEncoderObject` fail on every call; and two
materializations of `RequestBodyEncoderObjectBuffer` over an empty buffer set the
lengths `2` and `4`. -/
theorem materializeRounds_not_same :
    ((requestBodyEncoderObject ()
      (⟨fun _ => .error (.external 0), fun _ => ([], some (.external 0))⟩ : Encoder Unit)).setRequestBody
        Request.fresh World.init).1.2 = some (.external 0) ∧
    (materializeRounds (requestBodyEncoderObjectBuffer ()
      (⟨fun _ => .ok [123, 125], fun _ => ([123, 125], none)⟩ : Encoder Unit) 0) [[], []]
        World.init).map (·.1.contentLength) = [2, 4] :=
  ⟨rfl, rfl⟩

end ConjureRuntime.HttpClient
