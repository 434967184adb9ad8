import ConjureRuntime.Go.Readers
import Mathlib.Logic.Function.Basic

/-!
# The World an Exchange Runs In

A request body is materialized, replayed and read against the state of the
program around it: the heap objects it reaches through pointers (the
`*bytes.Buffer`, `*bytes.Reader` and `*strings.Reader` values a caller hands
to `RequestBodyInMemory`, the buffer an encoder writes into), and the code the
package calls but does not own. The second is modelled by a log of those calls
and by oracles for their results:

- a payload factory is a function whose `k`-th call returns its `k`-th result,
  whatever it did before (so the model covers factories with state);
- an encoder is a function of the value it encodes;
- the buffer pool hands out a buffer chosen from everything that happened so far.
-/

namespace ConjureRuntime.HttpClient

open ConjureRuntime.Go

/-- An `error` value. -/
inductive GoError where
  /-- An error returned by code the package calls (a factory, an encoder, the
  next round tripper, a decoder), told apart by an identity. -/
  | external (id : Nat)
  /-- `werror.ErrorWithContextParams(ctx, message, werror.SafeParam(key, value)...)`. -/
  | werror (message : String) (safeParams : List (String × String))
deriving DecidableEq, Repr

/-- A call the package makes to code it does not own. -/
inductive Call where
  /-- A call of the payload factory with this identity. -/
  | factory (id : Nat)
  /-- `encoder.Marshal(input)`. -/
  | marshal
  /-- `encoder.Encode(buffer, input)` into the buffer at this address. -/
  | encode (buffer : Nat)
  /-- `bufferPool.Get()`, which returned the buffer at this address. -/
  | poolGet (buffer : Nat)
  /-- `bufferPool.Put(buffer)`. -/
  | poolPut (buffer : Nat)
  /-- `next.RoundTrip(req)`. -/
  | roundTrip
  /-- `responseDecoder.Decode(resp.Body, responseOutput)`. -/
  | decode
deriving DecidableEq, Repr

/-- Whether a call runs the encoder. -/
def Call.isEncoder : Call → Bool
  | marshal | encode _ => true
  | _ => false

/-- Whether a call is one a request body makes while materializing: its factory or
its encoder. -/
def Call.isBodyCall : Call → Bool
  | factory _ | marshal | encode _ => true
  | _ => false

/-- A pointer to one of the values `RequestBodyInMemory` accepts. -/
inductive InMemoryPtr where
  | bytesBuffer (addr : Nat)
  | bytesReader (addr : Nat)
  | stringsReader (addr : Nat)
deriving DecidableEq, Repr

/-- The heap of in-memory objects, one map per Go type, and the calls made so far,
oldest first. -/
structure World where
  buffers : Nat → BytesBuffer
  bytesReaders : Nat → SliceReader
  stringsReaders : Nat → SliceReader
  calls : List Call

namespace World

/-- A world whose heap holds only empty objects and in which nothing has been called. -/
def init : World := ⟨fun _ => .empty, fun _ => ⟨[], 0⟩, fun _ => ⟨[], 0⟩, []⟩

/-- `*input`: the value behind a pointer. -/
def deref (w : World) : InMemoryPtr → InMemory
  | .bytesBuffer a => .bytesBuffer (w.buffers a)
  | .bytesReader a => .bytesReader (w.bytesReaders a)
  | .stringsReader a => .stringsReader (w.stringsReaders a)

/-- The world after one more call. -/
def record (w : World) (c : Call) : World := { w with calls := w.calls ++ [c] }

/-- `buffer.Write(p)` on the buffer at `addr`. -/
def writeBuffer (w : World) (addr : Nat) (p : Bytes) : World :=
  { w with buffers := Function.update w.buffers addr ((w.buffers addr).write p) }

/-- How many times the factory with this identity has been called. -/
def factoryCalls (w : World) (id : Nat) : Nat := w.calls.count (.factory id)

/-- How many times an encoder has been called. -/
def encoderCalls (w : World) : Nat := w.calls.countP Call.isEncoder

/-- Two worlds whose heaps hold the same objects; their call logs may differ. -/
def SameHeap (w w' : World) : Prop :=
  w.buffers = w'.buffers ∧ w.bytesReaders = w'.bytesReaders ∧
    w.stringsReaders = w'.stringsReaders

@[simp] theorem record_calls (w : World) (c : Call) : (w.record c).calls = w.calls ++ [c] := rfl
@[simp] theorem record_buffers (w : World) (c : Call) : (w.record c).buffers = w.buffers := rfl
@[simp] theorem record_deref (w : World) (c : Call) : (w.record c).deref = w.deref := rfl
@[simp] theorem writeBuffer_calls (w : World) (a : Nat) (p : Bytes) :
    (w.writeBuffer a p).calls = w.calls := rfl

@[simp] theorem writeBuffer_buffers_self (w : World) (a : Nat) (p : Bytes) :
    (w.writeBuffer a p).buffers a = (w.buffers a).write p := by
  simp [writeBuffer]

@[simp] theorem factoryCalls_record (w : World) (c : Call) (id : Nat) :
    (w.record c).factoryCalls id = w.factoryCalls id + if c = .factory id then 1 else 0 := by
  simp [factoryCalls, List.count_singleton, beq_iff_eq]

@[simp] theorem encoderCalls_record (w : World) (c : Call) :
    (w.record c).encoderCalls = w.encoderCalls + if c.isEncoder then 1 else 0 := by
  simp [encoderCalls, List.countP_append, List.countP_cons]

@[simp] theorem encoderCalls_writeBuffer (w : World) (a : Nat) (p : Bytes) :
    (w.writeBuffer a p).encoderCalls = w.encoderCalls := rfl

theorem SameHeap.refl (w : World) : SameHeap w w := ⟨rfl, rfl, rfl⟩

theorem SameHeap.symm {w w' : World} (h : SameHeap w w') : SameHeap w' w :=
  ⟨h.1.symm, h.2.1.symm, h.2.2.symm⟩

theorem SameHeap.trans {w₁ w₂ w₃ : World} (h₁ : SameHeap w₁ w₂) (h₂ : SameHeap w₂ w₃) :
    SameHeap w₁ w₃ :=
  ⟨h₁.1.trans h₂.1, h₁.2.1.trans h₂.2.1, h₁.2.2.trans h₂.2.2⟩

theorem sameHeap_record (w : World) (c : Call) : SameHeap w (w.record c) := ⟨rfl, rfl, rfl⟩

theorem SameHeap.deref_eq {w w' : World} (h : SameHeap w w') : w.deref = w'.deref := by
  funext p
  cases p <;> simp [deref, h.1, h.2.1, h.2.2]

end World

/-! ## Collaborators -/

/-- A caller-supplied function with state of its own, seen from outside: its
identity and the result of its `k`-th call. -/
structure Factory (ρ : Type) where
  id : Nat
  results : Nat → ρ

/-- Calling a factory: the result for the number of calls made so far. -/
def Factory.call {ρ : Type} (f : Factory ρ) (w : World) : ρ × World :=
  (f.results (w.factoryCalls f.id), w.record (.factory f.id))

/-- `codecs.Encoder`, as a function of the value it encodes. -/
structure Encoder (α : Type) where
  /-- `Marshal(v)`: the encoded bytes, or an error. -/
  marshal : α → Except GoError Bytes
  /-- `Encode(w, v)`: the bytes written to `w`, then the error returned. -/
  encode : α → Bytes × Option GoError

/-- `bytesbuffers.Pool`: which buffer `Get` hands out, given the calls made so far. -/
structure Pool where
  get : List Call → Nat

/-- `bufferPool.Get()`. -/
def Pool.getBuffer (p : Pool) (w : World) : Nat × World :=
  (p.get w.calls, w.record (.poolGet (p.get w.calls)))

end ConjureRuntime.HttpClient
