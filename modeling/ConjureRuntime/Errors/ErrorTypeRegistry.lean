import ConjureRuntime.Go.Readers
import Mathlib.Data.List.Nodup

/-!
# The Error Type Registry (`error_type_registry.go`)

`ReflectTypeConjureErrorDecoder` maps serialized error names to the Go types their
bodies are decoded into. `RegisterErrorType` adds a binding, and refuses a name that
is already bound or a type whose pointer type does not implement `Error`;
`DecodeConjureError` decodes a body into a new value of the bound type, or of
`genericError` for a name nobody registered.

Types are the values of any type `τ`. What `reflect` says about them, and what
`codecs.JSON` does with a body, are oracles (`Reflect`, `JSON`), so the results hold
for every type and every codec outcome.

## Main results

- `registerErrorType_cases`: a registration succeeds exactly when the name is unbound
  and the pointer type implements `Error`, and then adds exactly that binding; a
  refused one returns its message and changes nothing.
- `registerAll_wellFormed`: every reachable registry binds each name at most once, and
  only to types whose pointer type implements `Error`.
- `lookup_registerAll`: the registry refines its specification: a name is bound to the
  type of its first registration that could succeed (`firstRegistration`).
- `registerAll_binds_first_registration`: the three facts together, and the type
  `DecodeConjureError` decodes into, for every sequence of registrations.
- `decodeConjureError_registered`: a registered name's body decodes into its type
  whenever the codec leaves the new value in place.
- `registerErrorTypes_ok_iff`: registering a list in the global registry panics unless
  the names are distinct and every pointer type implements `Error`.
- `unmarshalError_after_init`: after an initialisation that did not panic,
  `UnmarshalError` decodes every body by the table of registrations.
-/

namespace ConjureRuntime.Errors

open ConjureRuntime.Go

/-- The errors of this package's functions. -/
inductive GoError where
  /-- An error `codecs.JSON.Unmarshal` returns. -/
  | json (id : Nat)
  /-- `fmt.Errorf(format, args...)`, as its formatted message. -/
  | fmt (message : String)
  /-- `werror.Error(message, werror.SafeParam(...)...)`. -/
  | werror (message : String) (safeParams : List (String × String))
  /-- `werror.Wrap(cause, message, werror.SafeParam(...)...)`. -/
  | wrap (cause : GoError) (message : String) (safeParams : List (String × String))
  deriving DecidableEq, Repr

/-- Whether an error was made by `werror`, so that `werror.Convert` returns it unchanged. -/
def GoError.isWerror : GoError → Bool
  | .werror .. | .wrap .. => true
  | _ => false

/-- What `reflect` says about the types in play: `Type.String()`, whether the pointer
type implements `Error`, and `reflect.TypeOf(genericError{})`. -/
structure Reflect (τ : Type) where
  string : τ → String
  ptrImplementsError : τ → Bool
  genericError : τ

/-- `codecs.JSON`, as the two decodings of this package use it. -/
structure JSON (τ : Type) where
  /-- `Unmarshal(body, &instance)` with `instance` holding a new `*typ`: its error, or
  whether `instance` still holds that pointer afterwards (a JSON `null` sets it to nil). -/
  unmarshal : τ → Bytes → Except GoError Bool
  /-- `Unmarshal(body, &name)`: the body's `errorName` field. -/
  errorName : Bytes → Except GoError String

/-- `ReflectTypeConjureErrorDecoder`; its map is a list of bindings, newest first. -/
structure ReflectTypeConjureErrorDecoder (τ : Type) where
  registry : List (String × τ)

/-- `NewReflectTypeConjureErrorDecoder()`. -/
def newReflectTypeConjureErrorDecoder {τ : Type} : ReflectTypeConjureErrorDecoder τ := ⟨[]⟩

namespace ReflectTypeConjureErrorDecoder

variable {τ : Type} (R : Reflect τ)

/-- `d.registry[name]`. -/
def lookup (d : ReflectTypeConjureErrorDecoder τ) (name : String) : Option τ :=
  d.registry.lookup name

/-- `d.RegisterErrorType(name, typ)`: the error, and the decoder after the call. -/
def registerErrorType (d : ReflectTypeConjureErrorDecoder τ) (name : String) (typ : τ) :
    Option GoError × ReflectTypeConjureErrorDecoder τ :=
  match d.lookup name with
  | some existing =>
    (some (.fmt ("ErrorName " ++ name ++ " already registered as " ++ R.string existing)), d)
  | none =>
    if !R.ptrImplementsError typ then
      (some (.fmt ("Error type *" ++ R.string typ ++ " does not implement errors.Error interface")), d)
    else (none, ⟨(name, typ) :: d.registry⟩)

/-- `DecodeConjureError` from the point where the type is chosen: decode `body` into a
new `*typ` and assert that it implements `Error`. The value returned is the `*typ`
decoded from `body`. -/
def decodeAs (J : JSON τ) (typ : τ) (body : Bytes) : Except GoError (τ × Bytes) :=
  match J.unmarshal typ body with
  | .error err =>
    .error (.wrap err "failed to unmarshal body using registered type" [("type", R.string typ)])
  | .ok kept =>
    if kept && R.ptrImplementsError typ then .ok (typ, body)
    else .error (.werror "unmarshaled type does not implement errors.Error interface"
      [("type", R.string typ)])

/-- `d.DecodeConjureError(errorName, body)`: the bound type, or `genericError`. -/
def decodeConjureError (d : ReflectTypeConjureErrorDecoder τ) (J : JSON τ) (errorName : String)
    (body : Bytes) : Except GoError (τ × Bytes) :=
  decodeAs R J ((d.lookup errorName).getD R.genericError) body

/-- Registrations made one after another, each whatever the ones before returned. -/
def registerAll (d : ReflectTypeConjureErrorDecoder τ) (ops : List (String × τ)) :
    ReflectTypeConjureErrorDecoder τ :=
  ops.foldl (fun d p => (d.registerErrorType R p.1 p.2).2) d

end ReflectTypeConjureErrorDecoder

open ReflectTypeConjureErrorDecoder

variable {τ : Type} (R : Reflect τ)

/-- `UnmarshalErrorWithDecoder(d, body)` for a `ReflectTypeConjureErrorDecoder`. Its
`werror.Convert` is left out: it returns the errors of `DecodeConjureError` unchanged,
as all of them are made by `werror` (`decodeConjureError_isWerror`). -/
def unmarshalErrorWithDecoder (d : ReflectTypeConjureErrorDecoder τ) (J : JSON τ)
    (body : Bytes) : Except GoError (τ × Bytes) :=
  match J.errorName body with
  | .error err => .error (.wrap err "failed to unmarshal body as conjure error" [])
  | .ok name => d.decodeConjureError R J name body

/-- `UnmarshalError(body)`: `UnmarshalErrorWithDecoder` on the global registry. -/
def unmarshalError (globalRegistry : ReflectTypeConjureErrorDecoder τ) (J : JSON τ) (body : Bytes) :
    Except GoError (τ × Bytes) :=
  unmarshalErrorWithDecoder R globalRegistry J body

/-- `RegisterErrorType(name, typ)` on the global registry, which panics (`.error`) with
the error the decoder returns. -/
def registerErrorType (globalRegistry : ReflectTypeConjureErrorDecoder τ) (name : String)
    (typ : τ) : Except GoError (ReflectTypeConjureErrorDecoder τ) :=
  match globalRegistry.registerErrorType R name typ with
  | (some err, _) => .error err
  | (none, d) => .ok d

/-- Package initialisation registering `ops` in order in a new global registry. -/
def registerErrorTypes (ops : List (String × τ)) : Except GoError (ReflectTypeConjureErrorDecoder τ) :=
  ops.foldlM (fun d p => registerErrorType R d p.1 p.2) newReflectTypeConjureErrorDecoder

/-! ## §1 One registration -/

namespace ReflectTypeConjureErrorDecoder

/-- The registry's specification: the type a name should be bound to after the
registrations `ops`, in order, is that of its first registration whose pointer type
implements `Error`. -/
def firstRegistration (ops : List (String × τ)) (name : String) : Option τ :=
  (ops.find? fun p => p.1 == name && R.ptrImplementsError p.2).map Prod.snd

/-- What every reachable registry satisfies: each name is bound at most once, and only
to a type whose pointer type implements `Error`. -/
structure WellFormed (d : ReflectTypeConjureErrorDecoder τ) : Prop where
  nodup : (d.registry.map Prod.fst).Nodup
  implements : ∀ p ∈ d.registry, R.ptrImplementsError p.2 = true

theorem lookup_cons_eq (reg : List (String × τ)) (k n : String) (t : τ) :
    ((k, t) :: reg).lookup n = if n = k then some t else reg.lookup n := by
  by_cases h : n = k
  · subst h; simp [List.lookup_cons]
  · simp [List.lookup_cons, beq_false_of_ne h, h]

theorem lookup_eq_none_iff {reg : List (String × τ)} {name : String} :
    reg.lookup name = none ↔ name ∉ reg.map Prod.fst := by
  induction reg with
  | nil => simp
  | cons p reg ih =>
    obtain ⟨k, t⟩ := p
    by_cases h : name = k <;> simp_all [lookup_cons_eq]

theorem mem_of_lookup_eq_some {reg : List (String × τ)} {name : String} {t : τ}
    (h : reg.lookup name = some t) : (name, t) ∈ reg := by
  induction reg with
  | nil => simp at h
  | cons p reg ih =>
    obtain ⟨k, t'⟩ := p
    by_cases hk : name = k <;> simp_all [lookup_cons_eq]

@[simp] theorem lookup_cons (reg : List (String × τ)) (name n : String) (typ : τ) :
    lookup ⟨(name, typ) :: reg⟩ n = if n = name then some typ else lookup ⟨reg⟩ n :=
  lookup_cons_eq reg name n typ

/-- Everything one registration can do: bind an unbound name to a type whose pointer
type implements `Error`; or refuse a bound name, naming the type it is bound to; or
refuse the type, naming its pointer type. A refusal leaves the decoder as it was. -/
theorem registerErrorType_cases (d : ReflectTypeConjureErrorDecoder τ) (name : String) (typ : τ) :
    (d.lookup name = none ∧ R.ptrImplementsError typ = true ∧
      d.registerErrorType R name typ = (none, ⟨(name, typ) :: d.registry⟩)) ∨
    (∃ existing, d.lookup name = some existing ∧ d.registerErrorType R name typ =
      (some (.fmt ("ErrorName " ++ name ++ " already registered as " ++ R.string existing)), d)) ∨
    (d.lookup name = none ∧ R.ptrImplementsError typ = false ∧ d.registerErrorType R name typ =
      (some (.fmt ("Error type *" ++ R.string typ ++ " does not implement errors.Error interface")), d)) := by
  unfold registerErrorType
  cases hl : d.lookup name with
  | some existing => exact .inr (.inl ⟨existing, rfl, rfl⟩)
  | none => cases hi : R.ptrImplementsError typ <;> simp [hi]

/-- One registration binds `n` to `typ` exactly when `n` is the unbound name it
registers and the pointer type implements `Error`. -/
theorem lookup_registerErrorType (d : ReflectTypeConjureErrorDecoder τ) (name : String) (typ : τ)
    (n : String) : ((d.registerErrorType R name typ).2).lookup n =
      (d.lookup n).or (if n = name ∧ R.ptrImplementsError typ = true then some typ else none) := by
  rcases registerErrorType_cases R d name typ with ⟨hl, hi, h⟩ | ⟨e, hl, h⟩ | ⟨hl, hi, h⟩ <;>
    rw [h] <;> by_cases hn : n = name <;> simp_all

/-- A registration keeps the registry well formed. -/
theorem registerErrorType_wellFormed {d : ReflectTypeConjureErrorDecoder τ} (hd : d.WellFormed R)
    (name : String) (typ : τ) : ((d.registerErrorType R name typ).2).WellFormed R := by
  rcases registerErrorType_cases R d name typ with ⟨hl, hi, h⟩ | ⟨_, _, h⟩ | ⟨_, _, h⟩ <;> rw [h]
  · exact ⟨List.nodup_cons.2 ⟨lookup_eq_none_iff.1 hl, hd.nodup⟩,
      by simpa [hi] using hd.implements⟩
  all_goals exact hd

/-! ## §2 Runs of registrations -/

theorem registerAll_cons (d : ReflectTypeConjureErrorDecoder τ) (p : String × τ)
    (ops : List (String × τ)) :
    d.registerAll R (p :: ops) = ((d.registerErrorType R p.1 p.2).2).registerAll R ops := rfl

theorem firstRegistration_cons (p : String × τ) (ops : List (String × τ)) (n : String) :
    firstRegistration R (p :: ops) n =
      (if n = p.1 ∧ R.ptrImplementsError p.2 = true then some p.2 else none).or
        (firstRegistration R ops n) := by
  obtain ⟨k, t⟩ := p
  by_cases h : n = k
  · subst h; cases hi : R.ptrImplementsError t <;> simp [firstRegistration, List.find?_cons, hi]
  · simp [firstRegistration, List.find?_cons, beq_false_of_ne (Ne.symm h), h]

/-- Every registry reached by registrations from a well-formed one is well formed. -/
theorem registerAll_wellFormed {d : ReflectTypeConjureErrorDecoder τ} (hd : d.WellFormed R)
    (ops : List (String × τ)) : (d.registerAll R ops).WellFormed R := by
  induction ops generalizing d with
  | nil => exact hd
  | cons p ops ih => exact ih (registerErrorType_wellFormed R hd p.1 p.2)

/-- The registry refines its specification: after registrations `ops`, a name keeps the
type it was bound to, or else gets that of its first registration that could succeed. -/
theorem lookup_registerAll (d : ReflectTypeConjureErrorDecoder τ) (ops : List (String × τ))
    (n : String) : (d.registerAll R ops).lookup n = (d.lookup n).or (firstRegistration R ops n) := by
  induction ops generalizing d with
  | nil => simp [registerAll, firstRegistration]
  | cons p ops ih =>
    rw [registerAll_cons, ih, lookup_registerErrorType, firstRegistration_cons, Option.or_assoc]

theorem wellFormed_new : (newReflectTypeConjureErrorDecoder : ReflectTypeConjureErrorDecoder τ).WellFormed R :=
  ⟨List.nodup_nil, nofun⟩

/-- For every codec, every sequence of registrations on a new decoder, and one more
registration: it succeeds exactly when the name is unbound and the pointer type
implements `Error`, then adds exactly that binding, and otherwise changes nothing. The
registry reached
binds each name at most once, to the type of its first registration that could
succeed, whose pointer type implements `Error`, and `DecodeConjureError` decodes into
that type, or into `genericError` for a name with none. -/
theorem registerAll_binds_first_registration (J : JSON τ) (ops : List (String × τ)) (name : String)
    (typ : τ) :
    let d := newReflectTypeConjureErrorDecoder.registerAll R ops
    let r := d.registerErrorType R name typ
    ((r.1 = none ↔ d.lookup name = none ∧ R.ptrImplementsError typ = true) ∧
      (r.1 = none → r.2.registry = (name, typ) :: d.registry) ∧
      (r.1 ≠ none → r.2 = d)) ∧
    d.WellFormed R ∧
    (∀ n, d.lookup n = firstRegistration R ops n) ∧
    (∀ n body, d.decodeConjureError R J n body =
      decodeAs R J ((firstRegistration R ops n).getD R.genericError) body) := by
  intro d r
  have hfirst : ∀ n, d.lookup n = firstRegistration R ops n := fun n =>
    (lookup_registerAll R _ ops n).trans Option.none_or
  refine ⟨?_, registerAll_wellFormed R (wellFormed_new R) ops, hfirst,
    fun n body => by simp only [decodeConjureError, hfirst]⟩
  rcases registerErrorType_cases R d name typ with ⟨hl, hi, h⟩ | ⟨e, hl, h⟩ | ⟨hl, hi, h⟩ <;>
    simp [r, h, hl, *]

/-! ## §3 Decoding -/

/-- A name bound in a reachable registry decodes into its type whenever the codec
decodes the body and leaves the new value in place: the type assertion never fails. -/
theorem decodeConjureError_registered (ops : List (String × τ)) (J : JSON τ) {n : String}
    {t : τ} {body : Bytes} (hn : (newReflectTypeConjureErrorDecoder.registerAll R ops).lookup n = some t)
    (hj : J.unmarshal t body = .ok true) :
    (newReflectTypeConjureErrorDecoder.registerAll R ops).decodeConjureError R J n body = .ok (t, body) := by
  have hi := (registerAll_wellFormed R (wellFormed_new R) ops).implements _ (mem_of_lookup_eq_some hn)
  simp only [decodeConjureError, hn, Option.getD_some, decodeAs, hj]
  simp [hi]

/-- A body naming `"E"`, bound to a type whose pointer implements `Error`, decodes into it. -/
theorem decodeConjureError_registered_bound :
    let R : Reflect Nat := ⟨toString, fun t => t != 0, 0⟩
    let J : JSON Nat := ⟨fun _ _ => .ok true, fun _ => .ok "E"⟩
    (newReflectTypeConjureErrorDecoder.registerAll R [("E", 1)]).lookup "E" = some 1 ∧
    J.unmarshal 1 [] = .ok true ∧
    (newReflectTypeConjureErrorDecoder.registerAll R [("E", 1)]).decodeConjureError R J "E" [] =
      .ok (1, []) :=
  ⟨rfl, rfl, decodeConjureError_registered _ [("E", 1)] _ rfl rfl⟩

/-- Every error `DecodeConjureError` returns is made by `werror`. -/
theorem decodeConjureError_isWerror (d : ReflectTypeConjureErrorDecoder τ) (J : JSON τ)
    (n : String) (body : Bytes) {e : GoError} (h : d.decodeConjureError R J n body = .error e) :
    e.isWerror = true := by
  unfold decodeConjureError decodeAs at h
  split at h
  · cases h; rfl
  · split at h <;> cases h; rfl

end ReflectTypeConjureErrorDecoder

/-! ## §4 The global registry -/

theorem keys_of_lookup_isSome {reg : List (String × τ)} {name : String} {t : τ}
    (h : reg.lookup name = some t) : name ∈ reg.map Prod.fst :=
  List.mem_map.2 ⟨_, mem_of_lookup_eq_some h, rfl⟩

/-- Registering `ops` in order in the global registry, from a registry whose names are
distinct, succeeds exactly when the names are all distinct and every pointer type
implements `Error`, and then prepends them. -/
theorem foldlM_registerErrorType (ops : List (String × τ)) :
    ∀ d : ReflectTypeConjureErrorDecoder τ, (d.registry.map Prod.fst).Nodup →
      (ops.foldlM (fun d p => registerErrorType R d p.1 p.2) d).toOption =
        if ((ops.map Prod.fst).reverse ++ d.registry.map Prod.fst).Nodup ∧
          ∀ p ∈ ops, R.ptrImplementsError p.2 = true
        then some ⟨ops.reverse ++ d.registry⟩ else none := by
  induction ops with
  | nil => intro d hd; rw [if_pos (by simpa using hd)]; rfl
  | cons p ops ih =>
    intro d hd
    obtain ⟨k, t⟩ := p
    rw [List.foldlM_cons]
    rcases registerErrorType_cases R d k t with ⟨hl, hi, h⟩ | ⟨e, hl, h⟩ | ⟨hl, hi, h⟩
    · have hg : registerErrorType R d k t = .ok ⟨(k, t) :: d.registry⟩ := by
        simp [registerErrorType, h]
      rw [hg]
      show Except.toOption (List.foldlM (fun d p => registerErrorType R d p.1 p.2) _ ops) = _
      rw [ih ⟨(k, t) :: d.registry⟩ (List.nodup_cons.2 ⟨lookup_eq_none_iff.1 hl, hd⟩)]
      have hiff : (((ops.map Prod.fst).reverse ++ k :: d.registry.map Prod.fst).Nodup ∧
          ∀ p ∈ ops, R.ptrImplementsError p.2 = true) ↔
          ((((k, t) :: ops).map Prod.fst).reverse ++ d.registry.map Prod.fst).Nodup ∧
          ∀ p ∈ (k, t) :: ops, R.ptrImplementsError p.2 = true := by
        simp [hi, List.nodup_middle]
      split_ifs with h₁ h₂ h₂
      · simp
      · exact absurd (hiff.1 h₁) h₂
      · exact absurd (hiff.2 h₂) h₁
      · rfl
    · have hg : registerErrorType R d k t =
          .error (.fmt ("ErrorName " ++ k ++ " already registered as " ++ R.string e)) := by
        simp [registerErrorType, h]
      rw [hg, if_neg]
      · rfl
      simp only [List.map_cons, List.reverse_cons, List.append_assoc, List.singleton_append,
        List.nodup_middle, List.nodup_cons, not_and_or]
      exact .inl (.inl (not_not.2 (List.mem_append_right _ (keys_of_lookup_isSome hl))))
    · have hg : registerErrorType R d k t = .error (.fmt ("Error type *" ++ R.string t ++
          " does not implement errors.Error interface")) := by
        simp [registerErrorType, h]
      rw [hg, if_neg]
      · rfl
      simp [hi]

/-- Package initialisation registering `ops` in the global registry panics unless the
names are distinct and every pointer type implements `Error`; it then binds all of them. -/
theorem registerErrorTypes_ok_iff (ops : List (String × τ)) :
    (registerErrorTypes R ops).toOption =
      if (ops.map Prod.fst).Nodup ∧ ∀ p ∈ ops, R.ptrImplementsError p.2 = true
      then some ⟨ops.reverse⟩ else none := by
  have h := foldlM_registerErrorType R ops newReflectTypeConjureErrorDecoder List.nodup_nil
  have hiff : ((ops.map Prod.fst).reverse ++ []).Nodup ↔ (ops.map Prod.fst).Nodup := by simp
  by_cases hc : (ops.map Prod.fst).Nodup ∧ ∀ p ∈ ops, R.ptrImplementsError p.2 = true
  · rw [if_pos ⟨hiff.2 hc.1, hc.2⟩] at h; rw [if_pos hc, registerErrorTypes, h]
    simp [newReflectTypeConjureErrorDecoder]
  · rw [if_neg (fun h' => hc ⟨hiff.1 h'.1, h'.2⟩)] at h; rw [if_neg hc, registerErrorTypes, h]

theorem lookup_reverse {reg : List (String × τ)} (h : (reg.map Prod.fst).Nodup) (name : String) :
    reg.reverse.lookup name = reg.lookup name := by
  induction reg with
  | nil => rfl
  | cons p reg ih =>
    obtain ⟨k, v⟩ := p
    rw [List.map_cons, List.nodup_cons] at h
    rw [List.reverse_cons, List.lookup_append, ih h.2]
    by_cases hn : name = k
    · subst hn
      rw [lookup_eq_none_iff.2 h.1]
      simp
    · simp [List.lookup_cons, beq_false_of_ne hn]

/-- After package initialisation registered `ops` without panicking, `UnmarshalError`
decodes every body by the table `ops`: into the type registered under the body's
`errorName`, or into `genericError` for a name never registered; a body whose
`errorName` cannot be read fails with the codec's error, wrapped. -/
theorem unmarshalError_after_init (ops : List (String × τ)) (J : JSON τ)
    {d : ReflectTypeConjureErrorDecoder τ} (hinit : registerErrorTypes R ops = .ok d) (body : Bytes) :
    unmarshalError R d J body =
      match J.errorName body with
      | .error err => .error (.wrap err "failed to unmarshal body as conjure error" [])
      | .ok name => decodeAs R J ((ops.lookup name).getD R.genericError) body := by
  have h := foldlM_registerErrorType R ops newReflectTypeConjureErrorDecoder List.nodup_nil
  rw [← registerErrorTypes, hinit] at h
  split_ifs at h with hc
  · obtain rfl : d = ⟨ops.reverse ++ []⟩ := Option.some.inj h
    have hkeys : (ops.map Prod.fst).Nodup := by simpa [newReflectTypeConjureErrorDecoder] using hc.1
    simp only [unmarshalError, unmarshalErrorWithDecoder, decodeConjureError, lookup,
      List.append_nil, lookup_reverse hkeys]
  · cases h

/-- One type registered at initialisation under `"E"`: a body naming it decodes into it. -/
theorem unmarshalError_after_init_registered :
    let R : Reflect Nat := ⟨toString, fun t => t != 0, 0⟩
    let J : JSON Nat := ⟨fun _ _ => .ok true, fun _ => .ok "E"⟩
    registerErrorTypes R [("E", 1)] = .ok ⟨[("E", 1)]⟩ ∧
    unmarshalError R ⟨[("E", 1)]⟩ J [] = .ok (1, []) :=
  ⟨rfl, unmarshalError_after_init _ [("E", 1)] _ (by rfl) []⟩

end ConjureRuntime.Errors
