import Mathlib.Order.MinMax

/-!
# In-Memory Readers of the Go Standard Library

`httpclient` hands out request bodies as `bytes.Buffer`, `bytes.Reader` and
`strings.Reader` values wrapped by `io.NopCloser`, or as `http.NoBody`. This file
models the part of those types the package relies on (`Len`, `Read`, `Bytes`,
`Write`), each characterised by the bytes still unread at the reader's cursor.

## Main results

- `InMemory.read_append_unread`: a `Read` returns a prefix of the unread bytes
  and leaves exactly the rest unread.
- `InMemory.len_eq_length_unread`: `Len()` counts the unread bytes.
- `ReadCloser.read_spec`: the same for every stream the package creates.
-/

namespace ConjureRuntime.Go

/-- The contents of a Go `[]byte`, or of a Go `string` (a byte sequence). -/
abbrev Bytes := List UInt8

/-! ## §1 `bytes.Buffer` -/

/-- `bytes.Buffer`: the slice `buf` and the read offset `off`. Every method of
the type keeps `off ≤ len(buf)`. -/
structure BytesBuffer where
  buf : Bytes
  off : Nat
  off_le : off ≤ buf.length

namespace BytesBuffer

/-- An empty buffer, the zero value `bytes.Buffer{}`. -/
def empty : BytesBuffer := ⟨[], 0, Nat.le_refl 0⟩

/-- `b.Len()`: the number of unread bytes. -/
def len (b : BytesBuffer) : Nat := b.buf.length - b.off

/-- `b.Bytes()`: the unread portion `buf[off:]`. -/
def bytes (b : BytesBuffer) : Bytes := b.buf.drop b.off

/-- `b.Read(p)` with `len(p) = n`: the bytes copied into `p`, whether `io.EOF` is
returned, and the buffer after. An empty buffer is `Reset` and returns `io.EOF`
unless `p` is empty. -/
def read (b : BytesBuffer) (n : Nat) : Bytes × Bool × BytesBuffer :=
  if b.buf.length ≤ b.off then ([], n != 0, empty)
  else ((b.buf.drop b.off).take n, false,
    ⟨b.buf, b.off + min n (b.buf.length - b.off), by have := b.off_le; omega⟩)

/-- `b.Write(p)`: appends `p` after the unread bytes. Go may also slide or
reallocate the slice; only `buf[off:]` is observable, and it is the same. -/
def write (b : BytesBuffer) (p : Bytes) : BytesBuffer :=
  ⟨b.buf ++ p, b.off, by have := b.off_le; simp; omega⟩

@[simp] theorem bytes_write (b : BytesBuffer) (p : Bytes) :
    (b.write p).bytes = b.bytes ++ p := by
  simp [write, bytes, List.drop_append_of_le_length b.off_le]

end BytesBuffer

/-! ## §2 `bytes.Reader` and `strings.Reader` -/

/-- `bytes.Reader` and `strings.Reader`, which share their code: the contents `s`
and the read index `i`. `Seek` may put `i` past the end, so nothing bounds it. -/
structure SliceReader where
  s : Bytes
  i : Nat
deriving DecidableEq, Repr

namespace SliceReader

/-- `bytes.NewReader(s)` and `strings.NewReader(s)`. -/
def new (s : Bytes) : SliceReader := ⟨s, 0⟩

/-- `r.Len()`: `0` once `i ≥ len(s)`, else `len(s) - i`. -/
def len (r : SliceReader) : Nat := if r.s.length ≤ r.i then 0 else r.s.length - r.i

/-- `r.Read(b)` with `len(b) = n`: `io.EOF` once `i ≥ len(s)`, else
`copy(b, s[i:])` and `i` advances by the count. -/
def read (r : SliceReader) (n : Nat) : Bytes × Bool × SliceReader :=
  if r.s.length ≤ r.i then ([], true, r)
  else ((r.s.drop r.i).take n, false, ⟨r.s, r.i + min n (r.s.length - r.i)⟩)

end SliceReader

/-! ## §3 The readers behind a request body -/

/-- Dropping as many bytes as a `copy` moved is dropping the requested count. -/
private theorem drop_min_length {α : Type} (l : List α) (n : Nat) :
    l.drop (min n l.length) = l.drop n := by
  rcases Nat.le_total n l.length with h | h
  · rw [Nat.min_eq_left h]
  · rw [Nat.min_eq_right h, List.drop_length, List.drop_eq_nil_of_le h]

/-- A `copy` out of `l.drop o`, then the rest: nothing is lost. -/
private theorem take_append_drop_min {α : Type} (l : List α) (o n : Nat) :
    (l.drop o).take n ++ (l.drop o).drop (min n (l.length - o)) = l.drop o := by
  rw [← List.length_drop, drop_min_length, List.take_append_drop]

/-- A value of one of the three types `RequestBodyInMemory` accepts; `Read` and
`Len` dispatch on it as `any(&r).(io.Reader)` does. -/
inductive InMemory where
  | bytesBuffer (b : BytesBuffer)
  | bytesReader (r : SliceReader)
  | stringsReader (r : SliceReader)

namespace InMemory

/-- `Len()` of the underlying reader. -/
def len : InMemory → Nat
  | bytesBuffer b => b.len
  | bytesReader r | stringsReader r => r.len

/-- `Read(p)` of the underlying reader, with `len(p) = n`. -/
def read : InMemory → Nat → Bytes × Bool × InMemory
  | bytesBuffer b, n => let (bs, eof, b') := b.read n; (bs, eof, bytesBuffer b')
  | bytesReader r, n => let (bs, eof, r') := r.read n; (bs, eof, bytesReader r')
  | stringsReader r, n => let (bs, eof, r') := r.read n; (bs, eof, stringsReader r')

/-- The bytes a loop of `Read` calls yields before `io.EOF`: those after the cursor. -/
def unread : InMemory → Bytes
  | bytesBuffer b => b.buf.drop b.off
  | bytesReader r | stringsReader r => r.s.drop r.i

theorem len_eq_length_unread (r : InMemory) : r.len = r.unread.length := by
  cases r with
  | bytesBuffer b => simp [len, unread, BytesBuffer.len]
  | bytesReader r | stringsReader r =>
    simp only [len, unread, SliceReader.len, List.length_drop]
    split <;> omega

/-- A `Read` returns a prefix of the unread bytes and leaves the rest unread. -/
theorem read_append_unread (r : InMemory) (n : Nat) :
    (r.read n).1 ++ (r.read n).2.2.unread = r.unread := by
  cases r with
  | bytesBuffer b =>
    simp only [read, BytesBuffer.read, unread]
    split
    · simp [BytesBuffer.empty, List.drop_eq_nil_of_le ‹_›]
    · simpa [← List.drop_drop] using take_append_drop_min b.buf b.off n
  | bytesReader r | stringsReader r =>
    simp only [read, SliceReader.read, unread]
    split
    · simp [List.drop_eq_nil_of_le ‹_›]
    · simpa [← List.drop_drop] using take_append_drop_min r.s r.i n

/-- `io.EOF` is returned only when nothing is left unread, and nothing is left after. -/
theorem unread_of_read_eof {r : InMemory} {n : Nat} (h : (r.read n).2.1 = true) :
    r.unread = [] ∧ (r.read n).2.2.unread = [] := by
  cases r with
  | bytesBuffer b =>
    by_cases hb : b.buf.length ≤ b.off
    · simp [read, BytesBuffer.read, hb, unread, BytesBuffer.empty, List.drop_eq_nil_of_le hb]
    · simp [read, BytesBuffer.read, hb] at h
  | bytesReader r | stringsReader r =>
    by_cases hr : r.s.length ≤ r.i
    · simp [read, SliceReader.read, hr, unread, List.drop_eq_nil_of_le hr]
    · simp [read, SliceReader.read, hr] at h

/-- A `Read` into a non-empty buffer makes progress: it returns bytes or `io.EOF`. -/
theorem read_progress (r : InMemory) {n : Nat} (hn : 0 < n) :
    (r.read n).1 ≠ [] ∨ (r.read n).2.1 = true := by
  cases r with
  | bytesBuffer b =>
    simp only [read, BytesBuffer.read]
    split
    · simp; omega
    · left; simp [List.take_eq_nil_iff]; omega
  | bytesReader r | stringsReader r =>
    simp only [read, SliceReader.read]
    split
    · simp
    · left; simp [List.take_eq_nil_iff]; omega

end InMemory

/-! ## §4 Request body streams -/

/-- An `io.ReadCloser` a request body holds. -/
inductive ReadCloser where
  /-- `http.NoBody`: every `Read` returns `io.EOF`. -/
  | noBody
  /-- `io.NopCloser(r)` over an in-memory reader. -/
  | nopCloser (r : InMemory)
  /-- A stream the caller's payload factory returned; its reads run the caller's code. -/
  | caller (id : Nat)

namespace ReadCloser

/-- `Read(p)` with `len(p) = n`, for the streams this package creates; `none` for
a caller's stream, whose `Read` is not part of the package. -/
def read : ReadCloser → Nat → Option (Bytes × Bool × ReadCloser)
  | noBody, _ => some ([], true, noBody)
  | nopCloser r, n => let (bs, eof, r') := r.read n; some (bs, eof, nopCloser r')
  | caller _, _ => none

/-- The bytes the stream still yields, for the streams this package creates. -/
def unread : ReadCloser → Option Bytes
  | noBody => some []
  | nopCloser r => some r.unread
  | caller _ => none

@[simp] theorem unread_noBody : noBody.unread = some [] := rfl
@[simp] theorem unread_nopCloser (r : InMemory) : (nopCloser r).unread = some r.unread := rfl

/-- A `Read` on a stream of this package returns a prefix of its unread bytes,
leaves the rest, and returns `io.EOF` only once nothing is left. -/
theorem read_spec {rc rc' : ReadCloser} {n : Nat} {bs u : Bytes} {eof : Bool}
    (h : rc.read n = some (bs, eof, rc')) (hu : rc.unread = some u) :
    ∃ u', rc'.unread = some u' ∧ bs ++ u' = u ∧ (eof = true → u' = []) := by
  cases rc with
  | noBody =>
    simp only [read, Option.some.injEq, Prod.mk.injEq] at h
    obtain ⟨rfl, rfl, rfl⟩ := h
    simp_all
  | nopCloser r =>
    simp only [read, Option.some.injEq, Prod.mk.injEq] at h
    obtain ⟨rfl, rfl, rfl⟩ := h
    simp only [unread_nopCloser, Option.some.injEq] at hu ⊢
    exact ⟨_, rfl, hu ▸ r.read_append_unread n, fun he => (InMemory.unread_of_read_eof he).2⟩
  | caller _ => simp [read] at h

end ReadCloser

end ConjureRuntime.Go
