import FogHttpBenchmark.Library.Checked
import FogHttpBenchmark.Library.Dict

/-!
# Python values

The values that the program reads and writes as JSON: the constants, integers of
any size, floats, text, lists and dictionaries with text keys. A finite float is
its exact rational value, so float arithmetic is exact arithmetic here; the three
non-finite floats are values of their own.

`pyEq` is Python's `==` on these values. It compares numbers of different types
by value (`1 == 1.0 == True`) and dictionaries without regard to order, which is
why it is not the equality of the type. Items of containers are first compared by
identity; the values come from the JSON reader, which has one object for `nan`.
-/

set_option autoImplicit false

namespace FogHttpBenchmark.Python

open Library

/-! ## Exceptions -/

section Exceptions

/-- The exception classes that the modelled code raises or catches. -/
inductive ErrorKind where
  | typeError
  | valueError
  | overflowError
  | keyError
  | attributeError
  | osError
  /-- `asyncio.IncompleteReadError`, an `EOFError`. -/
  | eofError
  /-- `asyncio.LimitOverrunError`. -/
  | limitOverrunError
  | runtimeError
  | stopIteration
  /-- `AmbiguousDirectBaselineError`, a `ValueError`. -/
  | ambiguousDirectBaselineError
  deriving DecidableEq, Repr

/-- An exception: its class and its text. -/
structure PyError where
  kind : ErrorKind
  message : String
  deriving DecidableEq, Repr

/-- A computation that may raise. -/
abbrev Py (α : Type) := Except PyError α

/-- `TypeError(msg)`. -/
def typeError (message : String) : PyError := ⟨.typeError, message⟩

/-- `ValueError(msg)`. -/
def valueError (message : String) : PyError := ⟨.valueError, message⟩

/-- `except (TypeError, ValueError)`. -/
def PyError.isTypeOrValueError (e : PyError) : Bool :=
  e.kind == .typeError || e.kind == .valueError || e.kind == .ambiguousDirectBaselineError

end Exceptions

/-! ## Floats -/

section Floats

/-- A float: an exact finite value, an infinity, or not a number. -/
inductive PyFloat where
  | finite (value : ℚ)
  | posInf
  | negInf
  | nan
  deriving DecidableEq

/-- `math.isfinite(x)`. -/
def PyFloat.isFinite : PyFloat → Bool
  | .finite _ => true
  | _ => false

/-- `x == y` on floats; `nan` differs from everything. -/
def PyFloat.pyEq : PyFloat → PyFloat → Bool
  | .finite x, .finite y => x = y
  | .posInf, .posInf => true
  | .negInf, .negInf => true
  | _, _ => false

/-- `x < y` on floats; every comparison with `nan` is false. -/
def PyFloat.lt : PyFloat → PyFloat → Bool
  | .finite x, .finite y => x < y
  | .finite _, .posInf => true
  | .negInf, .finite _ => true
  | .negInf, .posInf => true
  | _, _ => false

theorem PyFloat.pyEq_iff {x y : PyFloat} : x.pyEq y = true ↔ x = y ∧ x ≠ .nan := by
  cases x with
  | finite q => cases y with
    | finite r => simp [PyFloat.pyEq]
    | posInf => simp [PyFloat.pyEq]
    | negInf => simp [PyFloat.pyEq]
    | nan => simp [PyFloat.pyEq]
  | posInf => cases y with
    | finite r => simp [PyFloat.pyEq]
    | posInf => simp [PyFloat.pyEq]
    | negInf => simp [PyFloat.pyEq]
    | nan => simp [PyFloat.pyEq]
  | negInf => cases y with
    | finite r => simp [PyFloat.pyEq]
    | posInf => simp [PyFloat.pyEq]
    | negInf => simp [PyFloat.pyEq]
    | nan => simp [PyFloat.pyEq]
  | nan => simp [PyFloat.pyEq]

theorem PyFloat.pyEq_trans {x y z : PyFloat} (hxy : x.pyEq y = true) (hyz : y.pyEq z = true) :
    x.pyEq z = true := by
  obtain ⟨rfl, hx⟩ := PyFloat.pyEq_iff.1 hxy
  exact hyz

theorem PyFloat.pyEq_symm {x y : PyFloat} (hxy : x.pyEq y = true) : y.pyEq x = true := by
  obtain ⟨rfl, hx⟩ := PyFloat.pyEq_iff.1 hxy
  exact hxy

end Floats

/-! ## JSON values -/

/-- A decoded JSON value, or a Python value that encodes to one. -/
inductive Json where
  | null
  | bool (value : Bool)
  | int (value : ℤ)
  | float (value : PyFloat)
  | str (value : String)
  | arr (items : List Json)
  | obj (fields : List (String × Json))

/-- `dict[str, object]`. -/
abbrev JsonObject := List (String × Json)

namespace JsonObject

/-- `row.get(key)`. -/
def get (row : JsonObject) (key : String) : Json := (row.lookup key).getD .null

/-- `row.get(key, default)`. -/
def getOr (row : JsonObject) (key : String) (default : Json) : Json :=
  (row.lookup key).getD default

/-- `key in row`. -/
def has (row : JsonObject) (key : String) : Bool := Dict.contains row key

theorem get_of_lookup {row : JsonObject} {key : String} {value : Json}
    (h : row.lookup key = some value) : row.get key = value := by
  rw [get, h, Option.getD_some]

theorem get_of_not_has {row : JsonObject} {key : String} (h : row.has key = false) :
    row.get key = .null := by
  rw [has, Dict.contains, Option.isSome_eq_false_iff, Option.isNone_iff_eq_none] at h
  rw [get, h, Option.getD_none]

theorem lookup_of_has {row : JsonObject} {key : String} (h : row.has key = true) :
    row.lookup key = some (row.get key) := by
  rw [has, Dict.contains] at h
  obtain ⟨value, hvalue⟩ := Option.isSome_iff_exists.1 h
  rw [hvalue, get_of_lookup hvalue]

theorem has_of_get_ne_null {row : JsonObject} {key : String} (h : row.get key ≠ .null) :
    row.has key = true := by
  cases hhas : row.has key with
  | true => rfl
  | false => exact absurd (get_of_not_has hhas) h

end JsonObject

namespace Json

/-- The number that a numeric value stands for; `True` and `False` are 1 and 0. -/
def number? : Json → Option PyFloat
  | bool b => some (.finite (if b then 1 else 0))
  | int n => some (.finite n)
  | float x => some x
  | _ => none

/-- `value if isinstance(value, dict) else None`. -/
def asObject? : Json → Option JsonObject
  | obj fields => some fields
  | _ => none

/-- `value if isinstance(value, list) else None`. -/
def asList? : Json → Option (List Json)
  | arr items => some items
  | _ => none

/-- `value if isinstance(value, str) else None`. -/
def asString? : Json → Option String
  | str s => some s
  | _ => none

/-- `value if type(value) is int else None`; `bool` is a different type. -/
def asInt? : Json → Option ℤ
  | int n => some n
  | _ => none

/-- `value is None`. -/
def isNone : Json → Bool
  | null => true
  | _ => false

/-- `value is True`. -/
def isTrue : Json → Bool
  | bool true => true
  | _ => false

/-- `value is False`. -/
def isFalse : Json → Bool
  | bool false => true
  | _ => false

/-- `bool(value)`. -/
def truthy : Json → Bool
  | null => false
  | bool b => b
  | int n => n ≠ 0
  | float x => !x.pyEq (.finite 0)
  | str s => s ≠ ""
  | arr items => !items.isEmpty
  | obj fields => !fields.isEmpty

@[simp] theorem isNone_iff {value : Json} : value.isNone = true ↔ value = null := by
  cases value <;> simp [isNone]

@[simp] theorem isTrue_iff {value : Json} : value.isTrue = true ↔ value = bool true := by
  cases value with
  | bool b => cases b <;> simp [isTrue]
  | _ => simp [isTrue]

@[simp] theorem isFalse_iff {value : Json} : value.isFalse = true ↔ value = bool false := by
  cases value with
  | bool b => cases b <;> simp [isFalse]
  | _ => simp [isFalse]

theorem asInt?_eq_some {value : Json} {n : ℤ} : value.asInt? = some n ↔ value = int n := by
  cases value <;> simp [asInt?]

theorem asObject?_eq_some {value : Json} {o : JsonObject} :
    value.asObject? = some o ↔ value = obj o := by
  cases value <;> simp [asObject?]

theorem asList?_eq_some {value : Json} {items : List Json} :
    value.asList? = some items ↔ value = arr items := by
  cases value <;> simp [asList?]

/-- A float field of a result. -/
def ofFloat (q : ℚ) : Json := float (.finite q)

/-- A field that may be `None`. -/
def ofOption {α : Type} (encode : α → Json) : Option α → Json
  | none => null
  | some a => encode a

theorem ofOption_ofFloat_inj {value other : Option ℚ} :
    ofOption ofFloat value = ofOption ofFloat other ↔ value = other := by
  cases value with
  | none => cases other <;> simp [ofOption, ofFloat]
  | some value => cases other <;> simp [ofOption, ofFloat]

/-! ## Equality -/

/-- The float that is not a number. -/
def isNan : Json → Bool
  | float .nan => true
  | _ => false

mutual

/-- Python's `==`. -/
def pyEq : Json → Json → Bool
  | null, null => true
  | str s, str t => s = t
  | arr xs, arr ys => pyEqItems xs ys
  | obj fs, obj gs => fs.length = gs.length && pyEqFields fs gs
  | a, b =>
      match a.number?, b.number? with
      | some x, some y => x.pyEq y
      | _, _ => false

/-- Lists are equal item by item. -/
def pyEqItems : List Json → List Json → Bool
  | [], [] => true
  | x :: xs, y :: ys => (pyEq x y || isNan x && isNan y) && pyEqItems xs ys
  | _, _ => false

/-- Each field of the first dictionary has an equal value under its key in the second. -/
def pyEqFields : List (String × Json) → List (String × Json) → Bool
  | [], _ => true
  | (key, value) :: fs, gs =>
      (match gs.lookup key with
        | some other => pyEq value other || isNan value && isNan other
        | none => false) && pyEqFields fs gs

end

/-- Items of containers are equal, or the same object. -/
def pyEqItem (x y : Json) : Bool := pyEq x y || isNan x && isNan y

/-- Two numbers are equal when they stand for the same number. -/
theorem pyEq_of_number {a b : Json} {x : PyFloat} (ha : a.number? = some x) :
    pyEq a b = (match b.number? with
      | some y => x.pyEq y
      | none => false) := by
  cases a with
  | bool c => cases b <;> simp_all [pyEq, number?]
  | int n => cases b <;> simp_all [pyEq, number?]
  | float f => cases b <;> simp_all [pyEq, number?]
  | null => simp [number?] at ha
  | str s => simp [number?] at ha
  | arr xs => simp [number?] at ha
  | obj fs => simp [number?] at ha

/-- Only a text equals a text. -/
theorem pyEq_str {value : Json} {text : String} :
    pyEq value (str text) = true ↔ value = str text := by
  cases value <;> simp [pyEq, number?]

/-- A value equal to a number is a number with the same value. -/
theorem number_of_pyEq {a b : Json} {x : PyFloat} (ha : a.number? = some x)
    (h : pyEq a b = true) : ∃ y, b.number? = some y ∧ x.pyEq y = true := by
  rw [pyEq_of_number ha] at h
  cases hb : b.number? with
  | none => simp [hb] at h
  | some y =>
      refine ⟨y, rfl, ?_⟩
      simpa [hb] using h

theorem pyEqFields_iff {fs gs : List (String × Json)} :
    pyEqFields fs gs = true ↔
      ∀ key value, (key, value) ∈ fs → ∃ other, gs.lookup key = some other ∧
        pyEqItem value other = true := by
  induction fs with
  | nil => simp [pyEqFields]
  | cons head fs ih =>
      obtain ⟨k, v⟩ := head
      rw [pyEqFields, Bool.and_eq_true, ih]
      constructor
      · rintro ⟨hhead, htail⟩ key value hmem
        rcases List.mem_cons.1 hmem with heq | hmem'
        · cases heq
          cases hlook : gs.lookup k with
          | none => simp [hlook] at hhead
          | some other => exact ⟨other, rfl, by simpa [hlook, pyEqItem] using hhead⟩
        · exact htail key value hmem'
      · intro h
        obtain ⟨other, hlook, heq⟩ := h k v List.mem_cons_self
        refine ⟨by simpa [hlook, pyEqItem] using heq, ?_⟩
        exact fun key value hmem => h key value (List.mem_cons_of_mem _ hmem)

theorem eq_nan_of_isNan {value : Json} (h : isNan value = true) : value = float .nan := by
  cases value with
  | float x =>
      cases x with
      | nan => rfl
      | _ => exact absurd h Bool.false_ne_true
  | _ => exact absurd h Bool.false_ne_true

/-- `nan` equals nothing, itself included. -/
theorem isNan_eq_false_of_pyEq {a b : Json} (h : pyEq a b = true) :
    isNan a = false ∧ isNan b = false := by
  constructor
  · rw [Bool.eq_false_iff]
    intro ha
    obtain ⟨y, -, hy⟩ := number_of_pyEq (x := .nan) (by rw [eq_nan_of_isNan ha]; rfl) h
    exact absurd rfl (PyFloat.pyEq_iff.1 hy).2
  · rw [Bool.eq_false_iff]
    intro hb
    rw [eq_nan_of_isNan hb] at h
    cases a <;> simp_all [pyEq, number?, PyFloat.pyEq_iff]

theorem pyEqItem_iff {x y : Json} :
    pyEqItem x y = true ↔ pyEq x y = true ∨ (isNan x = true ∧ isNan y = true) := by
  rw [pyEqItem, Bool.or_eq_true, Bool.and_eq_true]

private theorem pyEqItem_trans_of {x y z : Json}
    (h : pyEq x y = true → pyEq y z = true → pyEq x z = true)
    (hxy : pyEqItem x y = true) (hyz : pyEqItem y z = true) : pyEqItem x z = true := by
  rw [pyEqItem_iff] at hxy hyz ⊢
  rcases hxy with hxy | ⟨hx, hy⟩
  · rcases hyz with hyz | ⟨hy, -⟩
    · exact .inl (h hxy hyz)
    · rw [(isNan_eq_false_of_pyEq hxy).2] at hy
      exact absurd hy Bool.false_ne_true
  · rcases hyz with hyz | ⟨-, hz⟩
    · rw [(isNan_eq_false_of_pyEq hyz).1] at hy
      exact absurd hy Bool.false_ne_true
    · exact .inr ⟨hx, hz⟩

private theorem pyEq_trans_of_number {a b c : Json} {x : PyFloat} (ha : a.number? = some x)
    (hab : pyEq a b = true) (hbc : pyEq b c = true) : pyEq a c = true := by
  obtain ⟨y, hb, hxy⟩ := number_of_pyEq ha hab
  obtain ⟨z, hc, hyz⟩ := number_of_pyEq hb hbc
  rw [pyEq_of_number ha, hc]
  exact PyFloat.pyEq_trans hxy hyz

mutual

/-- Equality is transitive, also across number types and dictionary orders. -/
theorem pyEq_trans : ∀ {a b c : Json}, pyEq a b = true → pyEq b c = true → pyEq a c = true
  | bool _, b, c, hab, hbc => pyEq_trans_of_number rfl hab hbc
  | int _, b, c, hab, hbc => pyEq_trans_of_number rfl hab hbc
  | float _, b, c, hab, hbc => pyEq_trans_of_number rfl hab hbc
  | null, b, c, hab, hbc => by
      cases b with
      | null => exact hbc
      | _ => simp [pyEq, number?] at hab
  | str s, b, c, hab, hbc => by
      cases b with
      | str t =>
          have hst : s = t := by simpa [pyEq] using hab
          rwa [hst]
      | _ => simp [pyEq, number?] at hab
  | arr xs, b, c, hab, hbc => by
      cases b with
      | arr ys =>
          cases c with
          | arr zs =>
              rw [pyEq] at hab hbc ⊢
              exact pyEqItems_trans hab hbc
          | _ => simp [pyEq, number?] at hbc
      | _ => simp [pyEq, number?] at hab
  | obj fs, b, c, hab, hbc => by
      cases b with
      | obj gs =>
          cases c with
          | obj hs =>
              simp only [pyEq, Bool.and_eq_true, decide_eq_true_eq] at hab hbc ⊢
              exact ⟨hab.1.trans hbc.1, pyEqFields_trans hab.2 hbc.2⟩
          | _ => simp [pyEq, number?] at hbc
      | _ => simp [pyEq, number?] at hab

theorem pyEqItems_trans : ∀ {xs ys zs : List Json},
    pyEqItems xs ys = true → pyEqItems ys zs = true → pyEqItems xs zs = true
  | [], [], _, _, h => h
  | [], _ :: _, _, h, _ => by simp [pyEqItems] at h
  | _ :: _, [], _, h, _ => by simp [pyEqItems] at h
  | _ :: _, _ :: _, [], _, h => by simp [pyEqItems] at h
  | x :: xs, y :: ys, z :: zs, hxy, hyz => by
      rw [pyEqItems, Bool.and_eq_true] at hxy hyz ⊢
      have hhead := pyEqItem_trans_of fun hxy hyz => pyEq_trans (a := x) (b := y) (c := z) hxy hyz
      exact ⟨hhead hxy.1 hyz.1, pyEqItems_trans hxy.2 hyz.2⟩

theorem pyEqFields_trans : ∀ {fs gs hs : List (String × Json)},
    pyEqFields fs gs = true → pyEqFields gs hs = true → pyEqFields fs hs = true
  | [], _, _, _, _ => by simp [pyEqFields]
  | (key, value) :: fs, gs, hs, hfg, hgh => by
      rw [pyEqFields, Bool.and_eq_true] at hfg ⊢
      refine ⟨?_, pyEqFields_trans hfg.2 hgh⟩
      cases hlook : gs.lookup key with
      | none => simp [hlook] at hfg
      | some other =>
          have hvalue : pyEqItem value other = true := by simpa [hlook, pyEqItem] using hfg.1
          obtain ⟨final, hfinal, hother⟩ :=
            pyEqFields_iff.1 hgh key other (Dict.mem_of_lookup hlook)
          rw [hfinal]
          exact pyEqItem_trans_of (fun hxy hyz => pyEq_trans hxy hyz) hvalue hother

end

/-! ## Well-formed values -/

mutual

/-- No float in the value is infinite or not a number. -/
def isFinite : Json → Bool
  | float x => x.isFinite
  | arr items => isFiniteItems items
  | obj fields => isFiniteFields fields
  | _ => true

def isFiniteItems : List Json → Bool
  | [] => true
  | item :: items => isFinite item && isFiniteItems items

def isFiniteFields : List (String × Json) → Bool
  | [] => true
  | (_, value) :: fields => isFinite value && isFiniteFields fields

end

theorem isFiniteItems_iff {items : List Json} :
    isFiniteItems items = true ↔ ∀ item ∈ items, isFinite item = true := by
  induction items with
  | nil => simp [isFiniteItems]
  | cons item items ih => simp [isFiniteItems, ih]

theorem isFiniteFields_iff {fields : List (String × Json)} :
    isFiniteFields fields = true ↔ ∀ entry ∈ fields, isFinite entry.2 = true := by
  induction fields with
  | nil => simp [isFiniteFields]
  | cons entry fields ih => simp [isFiniteFields, ih]

/-- A field of a finite object is finite, also where the object does not have it. -/
theorem isFinite_get {row : JsonObject} (h : isFinite (obj row) = true) (key : String) :
    isFinite (row.get key) = true := by
  rw [JsonObject.get]
  cases hlookup : row.lookup key with
  | none => rfl
  | some value =>
      rw [isFinite, isFiniteFields_iff] at h
      exact h (key, value) (Dict.mem_of_lookup hlookup)

theorem isFinite_getOr {row : JsonObject} (h : isFinite (obj row) = true) (key : String)
    {default : Json} (hdefault : isFinite default = true) :
    isFinite (row.getOr key default) = true := by
  rw [JsonObject.getOr]
  cases hlookup : row.lookup key with
  | none => exact hdefault
  | some value =>
      rw [isFinite, isFiniteFields_iff] at h
      exact h (key, value) (Dict.mem_of_lookup hlookup)

theorem isFinite_set {row : JsonObject} (h : isFinite (obj row) = true) (key : String)
    {value : Json} (hvalue : isFinite value = true) :
    isFinite (obj (Dict.set key value row)) = true := by
  rw [isFinite, isFiniteFields_iff] at h ⊢
  intro entry hentry
  rcases Dict.mem_set hentry with rfl | hold
  · exact hvalue
  · exact h entry hold

mutual

/-- Every dictionary in the value has distinct keys, as a Python dictionary has. -/
def distinctKeys : Json → Bool
  | arr items => distinctKeysItems items
  | obj fields => (Dict.keys fields).Nodup && distinctKeysFields fields
  | _ => true

def distinctKeysItems : List Json → Bool
  | [] => true
  | item :: items => distinctKeys item && distinctKeysItems items

def distinctKeysFields : List (String × Json) → Bool
  | [] => true
  | (_, value) :: fields => distinctKeys value && distinctKeysFields fields

end

theorem distinctKeysItems_iff {items : List Json} :
    distinctKeysItems items = true ↔ ∀ item ∈ items, distinctKeys item = true := by
  induction items with
  | nil => simp [distinctKeysItems]
  | cons item items ih => simp [distinctKeysItems, ih]

theorem distinctKeysFields_iff {fields : List (String × Json)} :
    distinctKeysFields fields = true ↔ ∀ entry ∈ fields, distinctKeys entry.2 = true := by
  induction fields with
  | nil => simp [distinctKeysFields]
  | cons entry fields ih => simp [distinctKeysFields, ih]

/-- The values of a dictionary have distinct keys if it has them at every level. -/
theorem distinctKeys_get {row : JsonObject} (h : distinctKeys (obj row) = true) (key : String) :
    distinctKeys (row.get key) = true := by
  rw [JsonObject.get]
  cases hlookup : row.lookup key with
  | none => rfl
  | some value =>
      rw [distinctKeys, Bool.and_eq_true] at h
      exact distinctKeysFields_iff.1 h.2 (key, value) (Dict.mem_of_lookup hlookup)

theorem distinctKeys_set {row : JsonObject} (h : distinctKeys (obj row) = true) (key : String)
    {value : Json} (hvalue : distinctKeys value = true) :
    distinctKeys (obj (Dict.set key value row)) = true := by
  rw [distinctKeys, Bool.and_eq_true, decide_eq_true_eq, distinctKeysFields_iff] at h ⊢
  refine ⟨Dict.nodup_set h.1, fun entry hentry => ?_⟩
  rcases Dict.mem_set hentry with rfl | hold
  · exact hvalue
  · exact h.2 entry hold

private theorem pyEq_symm_of_number {a b : Json} {x : PyFloat} (ha : a.number? = some x)
    (hab : pyEq a b = true) : pyEq b a = true := by
  obtain ⟨y, hb, hxy⟩ := number_of_pyEq ha hab
  rw [pyEq_of_number hb, ha]
  exact PyFloat.pyEq_symm hxy

private theorem pyEqItem_symm_of {x y : Json} (h : pyEq x y = true → pyEq y x = true)
    (hxy : pyEqItem x y = true) : pyEqItem y x = true := by
  rw [pyEqItem_iff] at hxy ⊢
  rcases hxy with hxy | ⟨hx, hy⟩
  · exact .inl (h hxy)
  · exact .inr ⟨hy, hx⟩

/-- Dictionaries with distinct keys and as many entries have the same keys where one has every
key of the other. -/
theorem exists_entry_of_keys {fs gs : List (String × Json)} (hfs : (Dict.keys fs).Nodup)
    (hlength : fs.length = gs.length) (hkeys : ∀ key ∈ Dict.keys fs, key ∈ Dict.keys gs)
    {key : String} {value : Json} (hmem : (key, value) ∈ gs) : ∃ other, (key, other) ∈ fs := by
  have hperm : (Dict.keys fs).Perm (Dict.keys gs) := by
    refine (List.subperm_of_subset hfs hkeys).perm_of_length_le ?_
    simp only [Dict.keys, List.length_map, hlength, le_refl]
  have hkey : key ∈ Dict.keys fs := hperm.mem_iff.2 (List.mem_map_of_mem hmem)
  obtain ⟨⟨_, other⟩, hother, rfl⟩ := List.mem_map.1 hkey
  exact ⟨other, hother⟩

mutual

/-- Equality is symmetric on values whose dictionaries have distinct keys. -/
theorem pyEq_symm : ∀ {a b : Json}, distinctKeys a = true → distinctKeys b = true →
    pyEq a b = true → pyEq b a = true
  | bool _, b, _, _, hab => pyEq_symm_of_number rfl hab
  | int _, b, _, _, hab => pyEq_symm_of_number rfl hab
  | float _, b, _, _, hab => pyEq_symm_of_number rfl hab
  | null, b, _, _, hab => by
      cases b with
      | null => rfl
      | _ => simp [pyEq, number?] at hab
  | str s, b, _, _, hab => by
      cases b with
      | str t =>
          have hst : s = t := by simpa [pyEq] using hab
          simp [pyEq, hst]
      | _ => simp [pyEq, number?] at hab
  | arr xs, b, ha, hb, hab => by
      cases b with
      | arr ys =>
          rw [distinctKeys] at ha hb
          rw [pyEq] at hab ⊢
          exact pyEqItems_symm ha hb hab
      | _ => simp [pyEq, number?] at hab
  -- as many keys on both sides, and each of the left ones on the right: the same keys
  | obj fs, b, ha, hb, hab => by
      cases b with
      | obj gs =>
          rw [distinctKeys, Bool.and_eq_true, decide_eq_true_eq] at ha hb
          simp only [pyEq, Bool.and_eq_true, decide_eq_true_eq] at hab ⊢
          have hback := pyEqFields_symm ha.2 hb.2 hab.2
          refine ⟨hab.1.symm, pyEqFields_iff.2 ?_⟩
          intro key value hmem
          have hkeys : ∀ key ∈ Dict.keys fs, key ∈ Dict.keys gs := by
            intro key hkey
            obtain ⟨⟨_, value⟩, hvalue, rfl⟩ := List.mem_map.1 hkey
            obtain ⟨other, hother, -⟩ := hback _ _ hvalue
            exact List.mem_map.2 ⟨_, Dict.mem_of_lookup hother, rfl⟩
          obtain ⟨other, hother⟩ := exists_entry_of_keys ha.1 hab.1 hkeys hmem
          obtain ⟨value', hvalue', heq⟩ := hback key other hother
          have hlookup := Dict.lookup_of_mem hb.1 hmem
          rw [hlookup, Option.some.injEq] at hvalue'
          subst hvalue'
          exact ⟨other, Dict.lookup_of_mem ha.1 hother, heq⟩
      | _ => simp [pyEq, number?] at hab

theorem pyEqItems_symm : ∀ {xs ys : List Json}, distinctKeysItems xs = true →
    distinctKeysItems ys = true → pyEqItems xs ys = true → pyEqItems ys xs = true
  | [], [], _, _, _ => rfl
  | [], _ :: _, _, _, h => by simp [pyEqItems] at h
  | _ :: _, [], _, _, h => by simp [pyEqItems] at h
  | x :: xs, y :: ys, hx, hy, h => by
      rw [distinctKeysItems, Bool.and_eq_true] at hx hy
      rw [pyEqItems, Bool.and_eq_true] at h ⊢
      have hhead := pyEqItem_symm_of fun hxy => pyEq_symm (a := x) (b := y) hx.1 hy.1 hxy
      exact ⟨hhead h.1, pyEqItems_symm hx.2 hy.2 h.2⟩

/-- The value of the second dictionary under a key of the first equals it. -/
theorem pyEqFields_symm : ∀ {fs gs : List (String × Json)}, distinctKeysFields fs = true →
    distinctKeysFields gs = true → pyEqFields fs gs = true →
    ∀ key value, (key, value) ∈ fs → ∃ other, gs.lookup key = some other ∧
      pyEqItem other value = true
  | [], _, _, _, _ => by simp
  | (key, value) :: fs, gs, hfs, hgs, h => by
      rw [distinctKeysFields, Bool.and_eq_true] at hfs
      have hhead := pyEqFields_iff.1 h key value List.mem_cons_self
      rw [pyEqFields, Bool.and_eq_true] at h
      intro key' value' hmem
      rcases List.mem_cons.1 hmem with heq | hmem
      · cases heq
        obtain ⟨other, hother, heq⟩ := hhead
        have hdistinct : distinctKeys other = true :=
          distinctKeysFields_iff.1 hgs _ (Dict.mem_of_lookup hother)
        have hback := pyEqItem_symm_of fun hxy =>
          pyEq_symm (a := value) (b := other) hfs.1 hdistinct hxy
        exact ⟨other, hother, hback heq⟩
      · exact pyEqFields_symm hfs.2 hgs h.2 key' value' hmem

end

end Json

/-- A counter written as a JSON dictionary. -/
def encodeCounts (counts : List (String × ℤ)) : JsonObject :=
  counts.map fun entry => (entry.1, .int entry.2)

end FogHttpBenchmark.Python
