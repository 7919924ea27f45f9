import Mathlib.Data.List.Basic
import Mathlib.Data.List.TakeDrop

/-!
# Decoding piece by piece

A code writes every item as a list of symbols and tells of a list of symbols whether it is an
item, the beginning of one, or neither. A decoder that reads one symbol after the other and keeps
the beginning of an item restores what was written (`decodeFrom_written`), accepts nothing else
(`decodeAll_eq_some`), and may stop anywhere and go on with what is pending (`decodeFrom_append`).

The last section is about a decoder that puts a marker in place of what it cannot read and
goes on. Where what was written is cut, it yields the whole items, and one marker if the cut is
inside an item (`replaceFrom_cut`).
-/

set_option autoImplicit false

universe u v w

namespace FogHttpBenchmark.Library.Incremental

variable {β : Type u} {γ : Type v}

/-- What a list of symbols stands for. -/
inductive Reading (γ : Type v) where
  | more
  | item (c : γ)
  | invalid

def Reading.map {δ : Type w} (f : γ → δ) : Reading γ → Reading δ
  | .more => .more
  | .item c => .item (f c)
  | .invalid => .invalid

theorem Reading.map_eq_item {δ : Type w} {f : γ → δ} {reading : Reading γ} {d : δ} :
    reading.map f = .item d ↔ ∃ c, reading = .item c ∧ f c = d := by
  cases reading with
  | more => simp [Reading.map]
  | item c => simp [Reading.map]
  | invalid => simp [Reading.map]

/-- A code whose items are recognised symbol by symbol. -/
structure Code (β : Type u) (γ : Type v) where
  write : γ → List β
  read : List β → Reading γ
  write_ne_nil : ∀ c, write c ≠ []
  read_write : ∀ c, read (write c) = .item c
  write_of_read : ∀ {symbols c}, read symbols = .item c → write c = symbols
  read_take : ∀ {c k}, 0 < k → k < (write c).length → read ((write c).take k) = .more

variable (code : Code β γ)

/-! ## The decoder -/

section Decoder

/-- The items in what follows the pending symbols, and the symbols that are pending then; nothing
where the symbols cannot go on to an item. -/
def decodeFrom (pending : List β) : List β → Option (List γ × List β)
  | [] => some ([], pending)
  | symbol :: symbols =>
      match code.read (pending ++ [symbol]) with
      | .more => decodeFrom (pending ++ [symbol]) symbols
      | .item c => (decodeFrom [] symbols).map fun found => (c :: found.1, found.2)
      | .invalid => none

/-- The items of symbols that end with an item. -/
def decodeAll (symbols : List β) : Option (List γ) :=
  (decodeFrom code [] symbols).bind fun found =>
    if found.2.isEmpty then some found.1 else none

theorem decodeFrom_more {pending : List β} {symbol : β}
    (h : code.read (pending ++ [symbol]) = .more) (symbols : List β) :
    decodeFrom code pending (symbol :: symbols) =
      decodeFrom code (pending ++ [symbol]) symbols := by
  rw [decodeFrom, h]

theorem decodeFrom_item {pending : List β} {symbol : β} {c : γ}
    (h : code.read (pending ++ [symbol]) = .item c) (symbols : List β) :
    decodeFrom code pending (symbol :: symbols) =
      (decodeFrom code [] symbols).map fun found => (c :: found.1, found.2) := by
  rw [decodeFrom, h]

theorem decodeFrom_invalid {pending : List β} {symbol : β}
    (h : code.read (pending ++ [symbol]) = .invalid) (symbols : List β) :
    decodeFrom code pending (symbol :: symbols) = none := by
  rw [decodeFrom, h]

/-- The decoder may stop anywhere and go on with what is pending. -/
theorem decodeFrom_append (pending symbols others : List β) :
    decodeFrom code pending (symbols ++ others) =
      (decodeFrom code pending symbols).bind fun found =>
        (decodeFrom code found.2 others).map fun later => (found.1 ++ later.1, later.2) := by
  induction symbols generalizing pending with
  | nil => simp [decodeFrom]
  | cons symbol symbols ih =>
      rw [List.cons_append]
      cases hread : code.read (pending ++ [symbol]) with
      | more =>
          rw [decodeFrom_more code hread, decodeFrom_more code hread]
          exact ih (pending ++ [symbol])
      | item c =>
          rw [decodeFrom_item code hread, decodeFrom_item code hread, ih []]
          cases decodeFrom code [] symbols with
          | none => rfl
          | some found => simp [Function.comp_def]
      | invalid =>
          rw [decodeFrom_invalid code hread, decodeFrom_invalid code hread]
          rfl

/-- What the decoder has read is what its items are written as, and what is pending. -/
theorem written_of_decodeFrom {pending symbols : List β} {found : List γ × List β}
    (h : decodeFrom code pending symbols = some found) :
    pending ++ symbols = found.1.flatMap code.write ++ found.2 := by
  induction symbols generalizing pending found with
  | nil =>
      cases h
      simp
  | cons symbol symbols ih =>
      cases hread : code.read (pending ++ [symbol]) with
      | more =>
          rw [decodeFrom_more code hread] at h
          rw [← ih h, List.append_assoc, List.singleton_append]
      | item c =>
          rw [decodeFrom_item code hread, Option.map_eq_some_iff] at h
          obtain ⟨later, hlater, rfl⟩ := h
          have hrest := ih hlater
          rw [List.nil_append] at hrest
          rw [List.flatMap_cons, code.write_of_read hread, List.append_assoc, ← hrest,
            List.append_assoc, List.singleton_append]
      | invalid =>
          rw [decodeFrom_invalid code hread] at h
          cases h

/-- From the first symbols of an item on, the decoder completes the item. -/
theorem decodeFrom_drop (c : γ) (rest : List β) {left : ℕ} (hleft : left < (code.write c).length) :
    decodeFrom code ((code.write c).take left) ((code.write c).drop left ++ rest) =
      (decodeFrom code [] rest).map fun found => (c :: found.1, found.2) := by
  -- on the number of symbols that are missing
  induction hmissing : (code.write c).length - left generalizing left with
  | zero => omega
  | succ missing ih =>
      have hdrop : (code.write c).drop left =
          (code.write c).get ⟨left, hleft⟩ :: (code.write c).drop (left + 1) :=
        List.drop_eq_getElem_cons hleft
      have htake : (code.write c).take left ++ [(code.write c).get ⟨left, hleft⟩] =
          (code.write c).take (left + 1) := List.take_append_getElem hleft
      rw [hdrop, List.cons_append]
      by_cases hlast : left + 1 < (code.write c).length
      · have hread := code.read_take (c := c) (Nat.succ_pos left) hlast
        rw [← htake] at hread
        rw [decodeFrom_more code hread, htake]
        exact ih hlast (by omega)
      · have hread := code.read_write c
        rw [← List.take_of_length_le (by omega : (code.write c).length ≤ left + 1), ← htake] at hread
        rw [decodeFrom_item code hread, List.drop_of_length_le (by omega), List.nil_append]

theorem decodeFrom_write (c : γ) (rest : List β) :
    decodeFrom code [] (code.write c ++ rest) =
      (decodeFrom code [] rest).map fun found => (c :: found.1, found.2) := by
  have h := decodeFrom_drop code c rest (List.length_pos_of_ne_nil (code.write_ne_nil c))
  rwa [List.take_zero, List.drop_zero] at h

/-- What is written is restored. -/
theorem decodeFrom_written (items : List γ) (rest : List β) :
    decodeFrom code [] (items.flatMap code.write ++ rest) =
      (decodeFrom code [] rest).map fun found => (items ++ found.1, found.2) := by
  induction items with
  | nil => simp
  | cons c items ih =>
      rw [List.flatMap_cons, List.append_assoc, decodeFrom_write, ih, Option.map_map]
      rfl

/-- The decoder accepts exactly what is written. -/
theorem decodeFrom_eq_some_nil {symbols : List β} {items : List γ} :
    decodeFrom code [] symbols = some (items, []) ↔ symbols = items.flatMap code.write := by
  constructor
  · intro h
    have hwritten := written_of_decodeFrom code h
    rwa [List.nil_append, List.append_nil] at hwritten
  · rintro rfl
    have h := decodeFrom_written code items []
    rw [List.append_nil] at h
    rw [h]
    simp [decodeFrom]

theorem decodeAll_eq_some {symbols : List β} {items : List γ} :
    decodeAll code symbols = some items ↔ symbols = items.flatMap code.write := by
  rw [← decodeFrom_eq_some_nil, decodeAll, Option.bind_eq_some_iff]
  constructor
  · rintro ⟨found, hfound, hend⟩
    split_ifs at hend with hempty
    cases hend
    rw [hfound, ← List.isEmpty_iff.1 hempty]
  · intro h
    exact ⟨(items, []), h, rfl⟩

theorem decodeAll_written (items : List γ) :
    decodeAll code (items.flatMap code.write) = some items :=
  (decodeAll_eq_some code).2 rfl

end Decoder

/-! ## Replacement -/

section Replacement

/-- Decoding that puts `marker` in place of the symbols that are pending, or of one symbol, where
they cannot go on to an item. -/
def replaceFrom (marker : γ) (pending : List β) : List β → List γ
  | [] => if pending.isEmpty then [] else [marker]
  | symbol :: symbols =>
      match code.read (pending ++ [symbol]) with
      | .more => replaceFrom marker (pending ++ [symbol]) symbols
      | .item c => c :: replaceFrom marker [] symbols
      | .invalid =>
          if pending.isEmpty then marker :: replaceFrom marker [] symbols
          -- the symbol that does not go on begins the next item
          else marker ::
            match code.read [symbol] with
            | .more => replaceFrom marker [symbol] symbols
            | .item c => c :: replaceFrom marker [] symbols
            | .invalid => marker :: replaceFrom marker [] symbols

/-- Where the decoder accepts the symbols, nothing is replaced. -/
theorem replaceFrom_of_decodeFrom (marker : γ) {pending symbols : List β}
    {found : List γ × List β} (h : decodeFrom code pending symbols = some found) :
    replaceFrom code marker pending symbols =
      found.1 ++ if found.2.isEmpty then [] else [marker] := by
  induction symbols generalizing pending found with
  | nil =>
      cases h
      rfl
  | cons symbol symbols ih =>
      cases hread : code.read (pending ++ [symbol]) with
      | more =>
          rw [decodeFrom_more code hread] at h
          rw [replaceFrom, hread]
          exact ih h
      | item c =>
          rw [decodeFrom_item code hread, Option.map_eq_some_iff] at h
          obtain ⟨later, hlater, rfl⟩ := h
          rw [replaceFrom, hread]
          exact congrArg (c :: ·) (ih hlater)
      | invalid =>
          rw [decodeFrom_invalid code hread] at h
          cases h

/-- What is written and then cut ends with the first symbols of an item, or none. -/
theorem exists_cut {symbols : List β} {items : List γ} (h : symbols <+: items.flatMap code.write)
    (hne : symbols ≠ items.flatMap code.write) :
    ∃ before c rest k, items = before ++ c :: rest ∧ k < (code.write c).length ∧
      symbols = before.flatMap code.write ++ (code.write c).take k := by
  induction items generalizing symbols with
  | nil => exact absurd (List.prefix_nil.1 h) hne
  | cons c items ih =>
      rw [List.flatMap_cons] at h hne
      by_cases hshort : symbols.length < (code.write c).length
      · have hpre : symbols <+: code.write c :=
          List.prefix_of_prefix_length_le h (List.prefix_append _ _) (Nat.le_of_lt hshort)
        refine ⟨[], c, items, symbols.length, rfl, hshort, ?_⟩
        rw [List.flatMap_nil, List.nil_append]
        exact List.prefix_iff_eq_take.1 hpre
      · obtain ⟨others, rfl⟩ :=
          List.prefix_of_prefix_length_le (List.prefix_append _ _) h (Nat.not_lt.1 hshort)
        have hothers := (List.prefix_append_right_inj (code.write c)).1 h
        obtain ⟨before, d, rest, k, hitems, hk, hcut⟩ :=
          ih hothers fun heq => hne (congrArg (code.write c ++ ·) heq)
        refine ⟨c :: before, d, rest, k, by rw [hitems, List.cons_append], hk, ?_⟩
        rw [hcut, List.flatMap_cons, List.append_assoc]

/-- The first symbols of an item are pending. -/
theorem decodeFrom_take {c : γ} {k : ℕ} (hk : k < (code.write c).length) :
    decodeFrom code [] ((code.write c).take k) = some ([], (code.write c).take k) := by
  induction k with
  | zero => rfl
  | succ k ih =>
      have hread := code.read_take (Nat.succ_pos k) hk
      rw [← List.take_append_getElem (Nat.lt_of_succ_lt hk)] at hread ⊢
      rw [decodeFrom_append, ih (Nat.lt_of_succ_lt hk), Option.bind_some,
        decodeFrom_more code hread]
      rfl

/-- The decoder has the whole items, and the first symbols of the item that is cut are pending. -/
theorem decodeFrom_cut (before : List γ) {c : γ} {k : ℕ} (hk : k < (code.write c).length) :
    decodeFrom code [] (before.flatMap code.write ++ (code.write c).take k) =
      some (before, (code.write c).take k) := by
  rw [decodeFrom_written, decodeFrom_take code hk, Option.map_some, List.append_nil]

theorem take_write_eq_nil {c : γ} {k : ℕ} : (code.write c).take k = [] ↔ k = 0 := by
  rw [List.take_eq_nil_iff]
  simp [code.write_ne_nil c]

/-- A cut inside an item puts one marker in its place. -/
theorem replaceFrom_cut (marker : γ) (before : List γ) {c : γ} {k : ℕ}
    (hk : k < (code.write c).length) :
    replaceFrom code marker [] (before.flatMap code.write ++ (code.write c).take k) =
      before ++ if k = 0 then [] else [marker] := by
  have hempty : ((code.write c).take k).isEmpty = true ↔ k = 0 := by
    rw [List.isEmpty_iff, take_write_eq_nil]
  rw [replaceFrom_of_decodeFrom code marker (decodeFrom_cut code before hk),
    if_congr hempty rfl rfl]

end Replacement

end FogHttpBenchmark.Library.Incremental
