import LinkedCharts.Proofs.Json.Finite

/-!
# Records that are read back

A record is written as an object with distinct keys. Whatever fields it has and in whatever order
they were put, its tree has each of them under its key, and nothing under a key that was left out.
So a reader that asks for a field by its name gets the tree of what was written.

Results:
* `Tree.fields?_toTree`: the fields that are read from a written record.
* `Tree.real?_toTree`, `Tree.nat?_toTree`, `Tree.items?_toTree`: plain contents that are read back.
* `Tree.nat?_lt`, `Tree.required_nat?_lt`, `Tree.optional_nat?_lt`: whole numbers that are read are
  below the limit.
* `Tree.required_eq_some_iff`: a field that has to be there, and is read.
-/

namespace LinkedCharts.Json

/-! ## Trees of values -/

namespace Value

theorem itemTrees_eq_map (vs : List Value) : itemTrees vs = vs.map toTree := by
  induction vs with
  | nil => rfl
  | cons v vs ih => rw [itemTrees, ih, List.map_cons]

theorem fieldTrees_eq_map (fs : List (String × Value)) :
    fieldTrees fs = fs.map fun f => (some f.1, f.2.toTree) := by
  induction fs with
  | nil => rfl
  | cons f fs ih => rw [fieldTrees, ih, List.map_cons]

@[simp] theorem lookup_cons_self (key : String) (v : Value) (fs : List (String × Value)) :
    lookup key ((key, v) :: fs) = some v := by rw [lookup, if_pos rfl]

@[simp] theorem lookup_cons_of_ne {k key : String} (h : k ≠ key) (v : Value)
    (fs : List (String × Value)) : lookup key ((k, v) :: fs) = lookup key fs := by
  rw [lookup, if_neg h]

@[simp] theorem lookup_nil (key : String) : lookup key [] = none := rfl

end Value

namespace Tree

/-! ## Plain contents -/

theorem real?_toTree {x : Binary64} (h : x.isFinite = true) :
    (Value.real x).toTree.real? = some x := by
  unfold Value.real
  rw [if_pos h]
  rfl

theorem nat?_toTree {n limit : Nat} (h : n < limit) :
    (Value.ofNat n).toTree.nat? limit = some n := by
  have hbounds : (0 : Int) ≤ n ∧ (n : Int) < limit := by omega
  show (if (0 : Int) ≤ n ∧ (n : Int) < limit then some (n : Int).toNat else none) = some n
  rw [if_pos hbounds, Int.toNat_natCast]

theorem nat?_lt {t : Tree} {n limit : Nat} (h : t.nat? limit = some n) : n < limit := by
  unfold nat? at h
  split at h
  · split_ifs at h
    obtain rfl := Option.some.inj h
    omega
  · cases h

@[simp] theorem string?_toTree (s : String) : (Value.string s).toTree.string? = some s := rfl

@[simp] theorem bool?_toTree (b : Bool) : (Value.bool b).toTree.bool? = some b := rfl

@[simp] theorem items?_toTree (vs : List Value) :
    (Value.array vs).toTree.items? = some (vs.map Value.toTree) :=
  congrArg some (Value.itemTrees_eq_map vs)

@[simp] theorem nullable_string?_toTree (s : String) :
    nullable string? (Value.string s).toTree = some (some s) := rfl

/-! ## Fields of a record -/

-- Proved by rewriting and not by computation: a reader that is told a large limit is not to be
-- opened when these are used.

@[simp] theorem required_some {α : Type} (read : Tree → Option α) (t : Tree) :
    required read (some t) = read t := by rw [required, Option.bind_some]

@[simp] theorem optional_none {α : Type} (default : α) (read : Tree → Option α) :
    optional default read none = some default := by rw [optional]

@[simp] theorem optional_some {α : Type} (default : α) (read : Tree → Option α) (t : Tree) :
    optional default read (some t) = read t := by rw [optional]

/-- Under a key of a written record there is what was written under it, if anything was. -/
theorem member?_fieldTrees {fs : List (String × Value)} (h : (fs.map Prod.fst).Nodup)
    (name : String) :
    member? (Value.fieldTrees fs) name = some ((Value.lookup name fs).map Value.toTree) := by
  have hnone (fs : List (String × Value)) (hname : name ∉ fs.map Prod.fst) :
      (Value.fieldTrees fs).filter (fun m => m.1 = some name) = [] := by
    rw [Value.fieldTrees_eq_map, List.filter_eq_nil_iff]
    intro m hm
    obtain ⟨f, hf, rfl⟩ := List.mem_map.1 hm
    simp only [decide_eq_true_eq, Option.some.injEq]
    rintro rfl
    exact hname (List.mem_map_of_mem hf)
  induction fs with
  | nil => rfl
  | cons f fs ih =>
    obtain ⟨hf, hrest⟩ := List.nodup_cons.1 h
    unfold member?
    rw [Value.fieldTrees, Value.lookup]
    by_cases hkey : f.1 = name
    · subst hkey
      rw [List.filter_cons_of_pos (by simp), hnone fs hf, if_pos rfl]
      rfl
    · rw [List.filter_cons_of_neg (by simpa using hkey), if_neg hkey]
      exact ih hrest

/-- The fields that are read from a written record with distinct keys are those that were put. -/
theorem fields?_toTree {fs : List (String × Value)} (h : (fs.map Prod.fst).Nodup)
    (names : List String) :
    (Value.object fs).toTree.fields? names =
      some (names.map fun name => (Value.lookup name fs).map Value.toTree) := by
  have hkeys : (Value.fieldTrees fs).all (fun m => m.1.isSome) = true := by
    rw [Value.fieldTrees_eq_map]
    simp
  rw [Value.toTree, fields?_object, if_pos hkeys, mapM_eq_some_iff, List.forall₂_map_right_iff,
    List.forall₂_same]
  exact fun name _ => member?_fieldTrees h name

theorem required_eq_some_iff {α : Type} {read : Tree → Option α} {field : Option Tree} {a : α} :
    required read field = some a ↔ ∃ t, field = some t ∧ read t = some a :=
  Option.bind_eq_some_iff

theorem required_nat?_lt {field : Option Tree} {n limit : Nat}
    (h : required (nat? limit) field = some n) : n < limit := by
  obtain ⟨t, -, ht⟩ := required_eq_some_iff.1 h
  exact nat?_lt ht

/-- A whole number that was read is read back from what is written of it. -/
theorem nat?_toTree_of_required {field : Option Tree} {n limit : Nat}
    (h : required (nat? limit) field = some n) : (Value.ofNat n).toTree.nat? limit = some n :=
  nat?_toTree (required_nat?_lt h)

/-- What stands for a missing field has to be below the limit itself. -/
theorem optional_nat?_lt {field : Option Tree} {default n limit : Nat} (hdefault : default < limit)
    (h : optional default (nat? limit) field = some n) : n < limit := by
  cases field with
  | none =>
    obtain rfl := Option.some.inj h
    exact hdefault
  | some t => exact nat?_lt h

end Tree

end LinkedCharts.Json
