import FogHttpBenchmark.Python.Text
import Mathlib.Data.List.Sort
import Mathlib.Data.String.Basic

/-!
# Merged streaming metadata

`merged_streaming_metadata`: the metadata that the children of an isolated streaming run share.
Some fields have to agree in every child, others are united.

A merge fails where two children disagree or a child does not declare the scopes that another
one has; otherwise it has a field for each one that a child has. Both conditions and every
field depend on which children there are, not on their order (`merge_childOrder`).
-/

set_option autoImplicit false

namespace FogHttpBenchmark.Streaming

open Library Library.Checked Python

/-! ## Metadata -/

section Metadata

/-- `StreamingMetadataMergeError(msg)`, a `ValueError`. -/
def streamingMetadataMergeError (message : String) : PyError := valueError message

/-- A field that agrees in every child, where one has it. -/
def agreedField (children : List JsonObject) (key : String) : Py (Option (String × Json)) :=
  if children.any fun child => child.has key then
    let values := children.map fun child => child.get key
    let first := values.headD .null
    if (values.any fun value => !value.pyEq first) || children.any (fun child => !child.has key) then
      throw (streamingMetadataMergeError ("Isolated streaming children disagree on " ++ key))
    else pure (some (key, first))
  else pure none

/-- The scopes that a child declares. -/
def childScopes (key : String) (child : JsonObject) : Py (List String) :=
  match (child.get key).asList?.bind fun items => items.mapM Json.asString? with
  | some scopes => pure scopes
  | none => throw (streamingMetadataMergeError
      ("Isolated streaming child field " ++ key ++ " must be a list of strings"))

/-- The scopes that any child declares, sorted, where one has the field. -/
def unitedScopes (children : List JsonObject) (key : String) : Py (Option (String × Json)) :=
  if children.any fun child => child.has key then do
    let scopes ← children.mapM (childScopes key)
    pure (some (key, .arr ((scopes.flatten.dedup.insertionSort (· ≤ ·)).map .str)))
  else pure none

/-- Merge the metadata of the children. -/
def mergedStreamingMetadata (children : List JsonObject) : Py JsonObject := do
  let agreed ← ["measurement_scope", "streaming_metric_schema_version",
    "bytes_payload_policy"].mapM (agreedField children)
  let united ← ["throughput_scopes", "timing_scopes"].mapM (unitedScopes children)
  pure ((agreed ++ united).filterMap id)

end Metadata

/-! ## What a merge depends on -/

section Conditions

/-- The fields that have to agree. -/
def agreementFields : List String :=
  ["measurement_scope", "streaming_metric_schema_version", "bytes_payload_policy"]

/-- The fields that are united. -/
def scopeFields : List String := ["throughput_scopes", "timing_scopes"]

variable {children : List JsonObject} {key : String}

/-- A child has the field. -/
def Present (children : List JsonObject) (key : String) : Prop :=
  ∃ child ∈ children, child.has key = true

instance (children : List JsonObject) (key : String) : Decidable (Present children key) :=
  inferInstanceAs (Decidable (∃ child ∈ children, child.has key = true))

/-- A child has the field, and a child does not have it or has another value. A value that
differs from itself, as `nan` does, makes its child disagree with itself. -/
def Disagree (children : List JsonObject) (key : String) : Prop :=
  ∃ child ∈ children, child.has key = true ∧ ∃ other ∈ children,
    other.has key = false ∨ (child.get key).pyEq (other.get key) = false

/-- A child has the field, and the field of a child is not a list of texts. -/
def Undeclared (children : List JsonObject) (key : String) : Prop :=
  Present children key ∧ ∃ child ∈ children, ∀ scopes : List String,
    child.get key ≠ .arr (scopes.map .str)

/-- The children are dictionaries: each has a key once, at every level. -/
def DistinctKeys (children : List JsonObject) : Prop :=
  ∀ child ∈ children, Json.distinctKeys (.obj child) = true

theorem not_mem_scopeFields (h : key ∈ agreementFields) : key ∉ scopeFields := by
  have hdisjoint : ∀ key ∈ agreementFields, key ∉ scopeFields := by decide
  exact hdisjoint key h

instance (children : List JsonObject) : Decidable (DistinctKeys children) :=
  inferInstanceAs (Decidable (∀ child ∈ children, Json.distinctKeys (.obj child) = true))

/-- Some child declares the field. -/
theorem any_has_iff : (children.any fun child => child.has key) = true ↔ Present children key := by
  rw [List.any_eq_true]
  exact Iff.rfl

theorem Present.perm {reordered : List JsonObject} (hperm : children.Perm reordered)
    (h : Present children key) : Present reordered key := by
  obtain ⟨child, hchild, hhas⟩ := h
  exact ⟨child, hperm.mem_iff.1 hchild, hhas⟩

theorem Disagree.perm {reordered : List JsonObject} (hperm : children.Perm reordered)
    (h : Disagree children key) : Disagree reordered key := by
  obtain ⟨child, hchild, hhas, other, hother, hdiffers⟩ := h
  exact ⟨child, hperm.mem_iff.1 hchild, hhas, other, hperm.mem_iff.1 hother, hdiffers⟩

theorem Undeclared.perm {reordered : List JsonObject} (hperm : children.Perm reordered)
    (h : Undeclared children key) : Undeclared reordered key := by
  obtain ⟨hpresent, child, hchild, hvalue⟩ := h
  exact ⟨hpresent.perm hperm, child, hperm.mem_iff.1 hchild, hvalue⟩

/-- Children that do not disagree on a field that one of them has all have it, with equal
values. -/
theorem agree_of_not_disagree (h : ¬ Disagree children key) (hpresent : Present children key)
    {child : JsonObject} (hchild : child ∈ children) : child.has key = true ∧
      ∀ other ∈ children, (child.get key).pyEq (other.get key) = true := by
  obtain ⟨first, hfirst, hhas⟩ := hpresent
  have hall : ∀ child ∈ children, child.has key = true := by
    intro child hchild
    rw [← Bool.not_eq_false]
    intro hmissing
    exact h ⟨first, hfirst, hhas, child, hchild, .inl hmissing⟩
  refine ⟨hall child hchild, fun other hother => ?_⟩
  rw [← Bool.not_eq_false]
  intro hdiffers
  exact h ⟨child, hchild, hall child hchild, other, hother, .inr hdiffers⟩

end Conditions

/-! ## Fields that agree -/

section Agreement

variable {children : List JsonObject} {key : String}

/-- The value of the first child. -/
def firstValue (children : List JsonObject) (key : String) : Json :=
  (children.map fun child => child.get key).headD .null

/-- The first value is that of a child. -/
theorem firstValue_mem (hpresent : Present children key) :
    ∃ child ∈ children, firstValue children key = child.get key := by
  obtain ⟨child, hchild, -⟩ := hpresent
  cases children with
  | nil => exact absurd hchild List.not_mem_nil
  | cons first rest => exact ⟨first, List.mem_cons_self, rfl⟩

/-- The test of the code, which compares every child with the first one, finds every
disagreement. -/
theorem disagree_iff (hchildren : DistinctKeys children) (hpresent : Present children key) :
    Disagree children key ↔
      ((children.map fun child => child.get key).any fun value =>
          !value.pyEq (firstValue children key)) = true ∨
        (children.any fun child => !child.has key) = true := by
  obtain ⟨first, hfirst, hvalue⟩ := firstValue_mem hpresent
  rw [List.any_eq_true, List.any_eq_true, hvalue]
  constructor
  · rintro ⟨child, hchild, -, other, hother, hmissing | hdiffers⟩
    · exact .inr ⟨other, hother, by rw [hmissing]; rfl⟩
    · left
      by_contra hnone
      have hequal : ∀ child ∈ children, (child.get key).pyEq (first.get key) = true := by
        intro child hchild
        rw [← Bool.not_eq_false]
        intro hfalse
        exact hnone ⟨_, List.mem_map_of_mem hchild, by rw [hfalse]; rfl⟩
      -- both children equal the first one, so they equal each other
      have hback := Json.pyEq_symm (Json.distinctKeys_get (hchildren other hother) key)
        (Json.distinctKeys_get (hchildren first hfirst) key) (hequal other hother)
      rw [Json.pyEq_trans (hequal child hchild) hback] at hdiffers
      exact Bool.false_ne_true hdiffers.symm
  · obtain ⟨present, hmem, hhas⟩ := hpresent
    rintro (⟨value, hvalue, hdiffers⟩ | ⟨child, hchild, hmissing⟩)
    · obtain ⟨child, hchild, rfl⟩ := List.mem_map.1 hvalue
      rw [Bool.not_eq_true'] at hdiffers
      cases hchildHas : child.has key with
      | true => exact ⟨child, hchild, hchildHas, first, hfirst, .inr hdiffers⟩
      | false => exact ⟨present, hmem, hhas, child, hchild, .inl hchildHas⟩
    · rw [Bool.not_eq_true'] at hmissing
      exact ⟨present, hmem, hhas, child, hchild, .inl hmissing⟩

/-- A field is agreed on exactly if no two children disagree. -/
theorem agreedField_eq_ok (hchildren : DistinctKeys children) {field : Option (String × Json)} :
    agreedField children key = .ok field ↔ ¬ Disagree children key ∧
      field = if Present children key then some (key, firstValue children key) else none := by
  rw [agreedField]
  by_cases hpresent : Present children key
  · rw [if_pos (any_has_iff.2 hpresent), if_pos hpresent, disagree_iff hchildren hpresent,
      ← Bool.or_eq_true]
    exact ite_throw_eq_ok.trans (and_congr_right fun _ => pure_eq_ok.trans eq_comm)
  · have hagree : ¬ Disagree children key := by
      rintro ⟨child, hchild, hhas, -⟩
      exact hpresent ⟨child, hchild, hhas⟩
    rw [if_neg fun h => hpresent (any_has_iff.1 h), if_neg hpresent, pure_eq_ok,
      and_iff_right hagree]
    exact eq_comm

end Agreement

/-! ## United scopes -/

section Scopes

variable {children : List JsonObject} {key : String}

/-- The texts of a list of texts. -/
def scopesOf (key : String) (child : JsonObject) : List String :=
  (((child.get key).asList?).getD []).filterMap Json.asString?

theorem mapM_asString? {items : List Json} {scopes : List String} :
    items.mapM Json.asString? = some scopes ↔ items = scopes.map .str := by
  induction items generalizing scopes with
  | nil =>
      rw [List.mapM_nil]
      cases scopes with
      | nil => simp
      | cons scope scopes => simp
  | cons item items ih =>
      simp only [List.mapM_cons, Option.bind_eq_bind, Option.bind_eq_some_iff, ih]
      constructor
      · rintro ⟨scope, hscope, rest, rfl, heq⟩
        cases item with
        | str text =>
            cases hscope
            cases heq
            rfl
        | _ => exact nomatch hscope
      · intro h
        cases scopes with
        | nil => exact nomatch h
        | cons scope scopes =>
            obtain ⟨rfl, rfl⟩ := List.cons.inj h
            exact ⟨scope, rfl, scopes, rfl, rfl⟩

/-- A child has scopes exactly if it declares a list of texts. -/
theorem childScopes_eq_ok {child : JsonObject} {scopes : List String} :
    childScopes key child = .ok scopes ↔ child.get key = .arr (scopes.map .str) := by
  rw [childScopes]
  cases hread : (child.get key).asList?.bind fun items => items.mapM Json.asString? with
  | none =>
      refine iff_of_false throw_ne_ok fun hvalue => ?_
      rw [hvalue, Json.asList?, Option.bind_some, mapM_asString?.2 rfl] at hread
      cases hread
  | some read =>
      obtain ⟨items, hitems, htexts⟩ := Option.bind_eq_some_iff.1 hread
      rw [Json.asList?_eq_some] at hitems
      rw [hitems, mapM_asString?.1 htexts, Json.arr.injEq]
      refine pure_eq_ok.trans ⟨fun h => by rw [h], fun h => ?_⟩
      exact List.map_injective_iff.2 (fun _ _ heq => Json.str.inj heq) h

theorem scopesOf_of_eq {child : JsonObject} {scopes : List String}
    (h : child.get key = .arr (scopes.map .str)) : scopesOf key child = scopes := by
  rw [scopesOf, h, Json.asList?, Option.getD_some, List.filterMap_map]
  exact List.filterMap_some

/-- The scopes of the children, each once and in ascending order. -/
def unionOf (children : List JsonObject) (key : String) : List String :=
  (children.flatMap (scopesOf key)).dedup.insertionSort (· ≤ ·)

/-- The united scopes are those of the children. -/
theorem mem_unionOf {scope : String} :
    scope ∈ unionOf children key ↔ ∃ child ∈ children, scope ∈ scopesOf key child := by
  rw [unionOf, (List.perm_insertionSort _ _).mem_iff, List.mem_dedup, List.mem_flatMap]

/-- They are in order, and no scope occurs twice. -/
theorem sortedLT_unionOf (children : List JsonObject) (key : String) :
    (unionOf children key).SortedLT := by
  apply List.sortedLT_iff_nodup_and_sortedLE.2
  constructor
  · exact (List.perm_insertionSort _ _).nodup_iff.2 (List.nodup_dedup _)
  · exact (List.pairwise_insertionSort _ _).sortedLE

/-- The union does not depend on the order of the children. -/
theorem unionOf_perm {reordered : List JsonObject} (hperm : children.Perm reordered) :
    unionOf children key = unionOf reordered key := by
  have hmem : ∀ scope, scope ∈ unionOf children key ↔ scope ∈ unionOf reordered key := by
    intro scope
    rw [mem_unionOf, mem_unionOf]
    exact exists_congr fun child => and_congr_left' hperm.mem_iff
  exact List.Subset.antisymm_of_sortedLT (fun scope h => (hmem scope).1 h)
    (fun scope h => (hmem scope).2 h) (sortedLT_unionOf _ _) (sortedLT_unionOf _ _)

/-- The scopes of every child can be read where the field is declared. -/
theorem returns_childScopes_iff (hpresent : Present children key) :
    (∃ scopes, children.mapM (childScopes key) = .ok scopes) ↔ ¬ Undeclared children key := by
  refine returns_mapM.trans ⟨fun h => ?_, fun h child hchild => ?_⟩
  · rintro ⟨-, child, hchild, hvalue⟩
    obtain ⟨scopes, hscopes⟩ := h child hchild
    exact hvalue scopes (childScopes_eq_ok.1 hscopes)
  · by_contra hraises
    exact h ⟨hpresent, child, hchild, fun scopes hvalue =>
      hraises ⟨scopes, childScopes_eq_ok.2 hvalue⟩⟩

theorem flatten_of_mapM {scopes : List (List String)}
    (h : children.mapM (childScopes key) = .ok scopes) :
    scopes.flatten = children.flatMap (scopesOf key) := by
  have hscopes := mapM_eq_ok.1 h
  clear h
  induction hscopes with
  | nil => rfl
  | cons hchild _ ih =>
      rw [List.flatten_cons, List.flatMap_cons, ih, scopesOf_of_eq (childScopes_eq_ok.1 hchild)]

/-- Scopes are united exactly if all children declare them, or none does. -/
theorem unitedScopes_eq_ok {field : Option (String × Json)} :
    unitedScopes children key = .ok field ↔ ¬ Undeclared children key ∧
      field = if Present children key then some (key, .arr ((unionOf children key).map .str))
        else none := by
  rw [unitedScopes]
  by_cases hpresent : Present children key
  · rw [if_pos (any_has_iff.2 hpresent), if_pos hpresent, bind_eq_ok,
      ← returns_childScopes_iff hpresent]
    constructor
    · rintro ⟨scopes, hscopes, hfield⟩
      rw [pure_eq_ok, flatten_of_mapM hscopes] at hfield
      exact ⟨⟨scopes, hscopes⟩, hfield.symm⟩
    · rintro ⟨⟨scopes, hscopes⟩, hfield⟩
      refine ⟨scopes, hscopes, ?_⟩
      rw [pure_eq_ok, flatten_of_mapM hscopes]
      exact hfield.symm
  · rw [if_neg fun h => hpresent (any_has_iff.1 h), if_neg hpresent, pure_eq_ok,
      and_iff_right fun h => hpresent h.1]
    exact eq_comm

end Scopes

/-! ## The merge -/

section Merge

variable {children : List JsonObject}

/-- The value of a merged field. -/
def mergedValue (children : List JsonObject) (key : String) : Json :=
  if key ∈ scopeFields then .arr ((unionOf children key).map .str) else firstValue children key

/-- The fields that a child has, with their merged values. -/
def mergedFields (children : List JsonObject) : JsonObject :=
  ((agreementFields ++ scopeFields).filter fun key => Present children key).map fun key =>
    (key, mergedValue children key)

/-- The children agree on every field that has to agree, and declare every scope field. -/
structure Mergeable (children : List JsonObject) : Prop where
  agree : ∀ key ∈ agreementFields, ¬ Disagree children key
  declared : ∀ key ∈ scopeFields, ¬ Undeclared children key

/-- The metadata is merged exactly if the children are mergeable. -/
theorem mergedStreamingMetadata_eq_ok (hchildren : DistinctKeys children) {merged : JsonObject} :
    mergedStreamingMetadata children = .ok merged ↔
      Mergeable children ∧ merged = mergedFields children := by
  let field : String → Option (String × Json) := fun key =>
    if Present children key then some (key, mergedValue children key) else none
  -- each key that must agree does, and has the first value
  have hagreed : ∀ fields, agreementFields.mapM (agreedField children) = .ok fields ↔
      (∀ key ∈ agreementFields, ¬ Disagree children key) ∧
        fields = agreementFields.map field := by
    intro fields
    refine mapM_eq_ok_map fun key hkey entry => ?_
    have hvalue : mergedValue children key = firstValue children key :=
      if_neg (not_mem_scopeFields hkey)
    rw [agreedField_eq_ok hchildren, ← hvalue]
  -- each key of scopes is declared by every child, and has the union
  have hunited : ∀ fields, scopeFields.mapM (unitedScopes children) = .ok fields ↔
      (∀ key ∈ scopeFields, ¬ Undeclared children key) ∧ fields = scopeFields.map field := by
    intro fields
    refine mapM_eq_ok_map fun key hkey entry => ?_
    have hvalue : mergedValue children key = .arr ((unionOf children key).map .str) := if_pos hkey
    rw [unitedScopes_eq_ok, ← hvalue]
  have hfields : (agreementFields.map field ++ scopeFields.map field).filterMap id =
      mergedFields children := by
    rw [← List.map_append, List.filterMap_map, mergedFields, ← List.filterMap_eq_map,
      List.filterMap_filter]
    simp only [decide_eq_true_eq]
    rfl
  show (agreementFields.mapM (agreedField children) >>= fun agreed =>
    scopeFields.mapM (unitedScopes children) >>= fun united =>
      pure ((agreed ++ united).filterMap id)) = _ ↔ _
  rw [bind_eq_ok]
  constructor
  · rintro ⟨agreed, hagree, h⟩
    obtain ⟨united, hdeclared, h⟩ := bind_eq_ok.1 h
    obtain ⟨hagrees, rfl⟩ := (hagreed agreed).1 hagree
    obtain ⟨hdeclares, rfl⟩ := (hunited united).1 hdeclared
    rw [pure_eq_ok, hfields] at h
    exact ⟨⟨hagrees, hdeclares⟩, h.symm⟩
  · rintro ⟨hmergeable, rfl⟩
    refine ⟨_, (hagreed _).2 ⟨hmergeable.agree, rfl⟩, ?_⟩
    rw [(hunited _).2 ⟨hmergeable.declared, rfl⟩, ok_bind, pure_eq_ok, hfields]

/-- The merge raises exactly where two children disagree or one does not declare the scopes of
another. -/
theorem not_returns_iff (hchildren : DistinctKeys children) :
    ¬ Returns (mergedStreamingMetadata children) ↔
      (∃ key ∈ agreementFields, Disagree children key) ∨
        ∃ key ∈ scopeFields, Undeclared children key := by
  have hreturns : Returns (mergedStreamingMetadata children) ↔ Mergeable children := by
    constructor
    · rintro ⟨merged, hmerged⟩
      exact ((mergedStreamingMetadata_eq_ok hchildren).1 hmerged).1
    · intro hmergeable
      exact ⟨_, (mergedStreamingMetadata_eq_ok hchildren).2 ⟨hmergeable, rfl⟩⟩
  rw [hreturns]
  constructor
  · intro hfails
    by_contra hnone
    rw [not_or] at hnone
    exact hfails ⟨fun key hkey h => hnone.1 ⟨key, hkey, h⟩,
      fun key hkey h => hnone.2 ⟨key, hkey, h⟩⟩
  · rintro (⟨key, hkey, h⟩ | ⟨key, hkey, h⟩) hmergeable
    · exact hmergeable.agree key hkey h
    · exact hmergeable.declared key hkey h

/-- Every merged field is one that a child has, under its merged value. -/
theorem lookup_mergedFields {key : String} :
    (mergedFields children).lookup key =
      if key ∈ agreementFields ++ scopeFields ∧ Present children key then
        some (mergedValue children key) else none := by
  rw [mergedFields]
  split_ifs with hkey
  · exact List.lookup_graph _ (List.mem_filter.2 ⟨hkey.1, decide_eq_true hkey.2⟩)
  · rw [Dict.lookup_eq_none_iff, Dict.keys, List.map_map]
    intro hmem
    obtain ⟨other, hother, rfl⟩ := List.mem_map.1 hmem
    obtain ⟨hfield, hpresent⟩ := List.mem_filter.1 hother
    exact hkey ⟨hfield, of_decide_eq_true hpresent⟩

/-- The merged value of a field that some child declares. -/
theorem get_mergedFields {key : String} (hkey : key ∈ agreementFields ++ scopeFields)
    (hpresent : Present children key) :
    (mergedFields children).has key = true ∧
      (mergedFields children).get key = mergedValue children key := by
  have hlookup : (mergedFields children).lookup key = _ := lookup_mergedFields
  rw [if_pos ⟨hkey, hpresent⟩] at hlookup
  exact ⟨by rw [JsonObject.has, Dict.contains, hlookup]; rfl, JsonObject.get_of_lookup hlookup⟩

/-- What the merged metadata says about the children. -/
structure Merges (children : List JsonObject) (merged : JsonObject) : Prop where
  /-- A field that has to agree has one value in the children and in the merge. -/
  agreement : ∀ key ∈ agreementFields, Present children key → merged.has key = true ∧
    ∀ child ∈ children, child.has key = true ∧
      (merged.get key).pyEq (child.get key) = true
  /-- A scope field has each scope of each child once, in ascending order. -/
  scopes : ∀ key ∈ scopeFields, Present children key →
    ∃ scopes : List String, merged.get key = .arr (scopes.map .str) ∧
      scopes.Pairwise (· < ·) ∧
      ∀ scope, scope ∈ scopes ↔ ∃ child ∈ children, ∃ items,
        child.get key = .arr items ∧ .str scope ∈ items
  /-- A field of the merge is a field of a child. -/
  fields : ∀ key, merged.has key = true →
    key ∈ agreementFields ++ scopeFields ∧ Present children key

/-- What the merged metadata says about its children. -/
theorem merges_mergedFields (hmergeable : Mergeable children) :
    Merges children (mergedFields children) where
  agreement := by
    intro key hkey hpresent
    obtain ⟨hhas, hget⟩ := get_mergedFields (List.mem_append_left _ hkey) hpresent
    obtain ⟨first, hfirst, hvalue⟩ := firstValue_mem hpresent
    refine ⟨hhas, fun child hchild => ?_⟩
    have hagree := hmergeable.agree key hkey
    rw [hget, mergedValue, if_neg (not_mem_scopeFields hkey), hvalue]
    exact ⟨(agree_of_not_disagree hagree hpresent hchild).1,
      (agree_of_not_disagree hagree hpresent hfirst).2 child hchild⟩
  scopes := by
    intro key hkey hpresent
    have hget := (get_mergedFields (List.mem_append_right _ hkey) hpresent).2
    rw [mergedValue, if_pos hkey] at hget
    refine ⟨_, hget, (sortedLT_unionOf children key).pairwise, fun scope => ?_⟩
    rw [mem_unionOf]
    refine exists_congr fun child => and_congr_right fun hchild => ?_
    -- the field of every child is a list of texts
    have hdeclared : ∃ scopes : List String, child.get key = .arr (scopes.map .str) := by
      by_contra hnone
      exact hmergeable.declared key hkey
        ⟨hpresent, child, hchild, fun scopes h => hnone ⟨scopes, h⟩⟩
    obtain ⟨scopes, hscopes⟩ := hdeclared
    rw [scopesOf_of_eq hscopes, hscopes]
    constructor
    · exact fun h => ⟨_, rfl, List.mem_map_of_mem h⟩
    · rintro ⟨items, hitems, hmem⟩
      rw [← Json.arr.inj hitems] at hmem
      obtain ⟨other, hother, heq⟩ := List.mem_map.1 hmem
      rwa [← Json.str.inj heq]
  fields := by
    intro key hhas
    rw [JsonObject.has, Dict.contains, lookup_mergedFields] at hhas
    split_ifs at hhas with hkey
    · exact hkey
    · exact absurd hhas Bool.false_ne_true

theorem pyEqItems_texts (texts : List String) :
    Json.pyEqItems (texts.map .str) (texts.map .str) = true := by
  induction texts with
  | nil => rfl
  | cons text texts ih =>
      rw [List.map_cons, Json.pyEqItems, Json.pyEq_str.2 rfl, ih]
      rfl

/-- The children in another order have equal merged fields. -/
theorem mergedFields_perm {reordered : List JsonObject} (hperm : children.Perm reordered)
    (hmergeable : Mergeable children) :
    (Json.obj (mergedFields children)).pyEq (.obj (mergedFields reordered)) = true := by
  have hpresent : ∀ key, Present children key ↔ Present reordered key := fun key =>
    ⟨Present.perm hperm, Present.perm hperm.symm⟩
  have hlength : (mergedFields children).length = (mergedFields reordered).length := by
    rw [mergedFields, mergedFields, List.length_map, List.length_map]
    simp only [hpresent]
  rw [Json.pyEq, Bool.and_eq_true, decide_eq_true_eq]
  refine ⟨hlength, Json.pyEqFields_iff.2 fun key value hmem => ?_⟩
  obtain ⟨other, hother, heq⟩ := List.mem_map.1 hmem
  obtain ⟨rfl, rfl⟩ := Prod.mk.inj heq
  obtain ⟨hfield, hin⟩ := List.mem_filter.1 hother
  have hin := of_decide_eq_true hin
  refine ⟨mergedValue reordered other, ?_, Json.pyEqItem_iff.2 (.inl ?_)⟩
  · rw [lookup_mergedFields, if_pos ⟨hfield, (hpresent other).1 hin⟩]
  · by_cases hscope : other ∈ scopeFields
    · rw [mergedValue, mergedValue, if_pos hscope, if_pos hscope, unionOf_perm hperm, Json.pyEq]
      exact pyEqItems_texts _
    · rw [mergedValue, mergedValue, if_neg hscope, if_neg hscope]
      have hkey : other ∈ agreementFields :=
        (List.mem_append.1 hfield).resolve_right hscope
      obtain ⟨first, hfirst, hvalue⟩ := firstValue_mem hin
      obtain ⟨first', hfirst', hvalue'⟩ := firstValue_mem ((hpresent other).1 hin)
      rw [hvalue, hvalue']
      exact (agree_of_not_disagree (hmergeable.agree other hkey) hin hfirst).2 first'
        (hperm.mem_iff.2 hfirst')

/-- The merge of the children in any order raises as well, or returns equal metadata; what it
returns has the agreed values and the unions of the scopes; and it raises exactly where
children disagree on a field or do not all declare scopes that one declares. -/
theorem merge_childOrder (hchildren : DistinctKeys children) :
    (∀ reordered, children.Perm reordered →
      (¬ Returns (mergedStreamingMetadata children) ∧
          ¬ Returns (mergedStreamingMetadata reordered)) ∨
        ∃ merged other, mergedStreamingMetadata children = .ok merged ∧
          mergedStreamingMetadata reordered = .ok other ∧
          (Json.obj merged).pyEq (.obj other) = true) ∧
      (∀ merged, mergedStreamingMetadata children = .ok merged → Merges children merged) ∧
      (¬ Returns (mergedStreamingMetadata children) ↔
        (∃ key ∈ agreementFields, Disagree children key) ∨
          ∃ key ∈ scopeFields, Undeclared children key) := by
  refine ⟨fun reordered hperm => ?_, fun merged hmerged => ?_, not_returns_iff hchildren⟩
  · have hreordered : DistinctKeys reordered := fun child hchild =>
      hchildren child (hperm.mem_iff.2 hchild)
    -- mergeable children are mergeable in any order, and so are those that are not
    by_cases hreturns : Returns (mergedStreamingMetadata children)
    · obtain ⟨merged, hmerged⟩ := hreturns
      obtain ⟨hmergeable, rfl⟩ := (mergedStreamingMetadata_eq_ok hchildren).1 hmerged
      have hother : Mergeable reordered :=
        ⟨fun key hkey h => hmergeable.agree key hkey (h.perm hperm.symm),
          fun key hkey h => hmergeable.declared key hkey (h.perm hperm.symm)⟩
      exact .inr ⟨_, _, hmerged, (mergedStreamingMetadata_eq_ok hreordered).2 ⟨hother, rfl⟩,
        mergedFields_perm hperm hmergeable⟩
    · refine .inl ⟨hreturns, (not_returns_iff hreordered).2 ?_⟩
      rcases (not_returns_iff hchildren).1 hreturns with ⟨key, hkey, h⟩ | ⟨key, hkey, h⟩
      · exact .inl ⟨key, hkey, h.perm hperm⟩
      · exact .inr ⟨key, hkey, h.perm hperm⟩
  · obtain ⟨hmergeable, rfl⟩ := (mergedStreamingMetadata_eq_ok hchildren).1 hmerged
    exact merges_mergedFields hmergeable

/-- Two children that declare their scopes in different orders. -/
def declaringChildren : List JsonObject :=
  [[("streaming_metric_schema_version", .int 2), ("timing_scopes", .arr [.str "ttfb", .str "body"])],
    [("timing_scopes", .arr [.str "body", .str "close"]),
      ("streaming_metric_schema_version", .float (.finite 2))]]

/-- The second child first gives the same metadata. -/
theorem merge_childOrder_reversed :
    ∃ merged other, mergedStreamingMetadata declaringChildren = .ok merged ∧
      mergedStreamingMetadata declaringChildren.reverse = .ok other ∧
      (Json.obj merged).pyEq (.obj other) = true ∧ Merges declaringChildren merged := by
  have hreturns : Returns (mergedStreamingMetadata declaringChildren) := by decide
  have hdistinct : DistinctKeys declaringChildren := by decide
  obtain ⟨horder, hmerges, -⟩ := merge_childOrder hdistinct
  rcases horder _ (List.reverse_perm _).symm with ⟨hraises, -⟩ | ⟨merged, other, hmerged, h⟩
  · exact absurd hreturns hraises
  · exact ⟨merged, other, hmerged, h.1, h.2, hmerges merged hmerged⟩

end Merge

end FogHttpBenchmark.Streaming
