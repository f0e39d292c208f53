import RolloutCore.Floats

/-!
# Taking decoded JSON apart

The operations the loaders apply to what `json.loads` returned: subscripts, `str`, `int`, `float`,
`dict` and iteration, with the exceptions they raise on a value of the wrong class. `sortKeys` is
the normal form under which two values are equal exactly if Python's `==` cannot tell their
dictionaries apart.
-/

namespace RolloutCore

/-- What the loaders use of `json`, and of `int` and `float` on a string. -/
structure JsonCodec extends JsonModule where
  /-- `json.dumps(v, sort_keys=True)`. -/
  dumps : Json → String
  intOfText : String → Except PyExc ℤ
  floatOfText : String → Except PyExc PyFloat

def typeError (message : String) : PyExc := .other message s!"TypeError({pyRepr message})"

def attributeError (message : String) : PyExc := .other message s!"AttributeError({pyRepr message})"

def overflowError (message : String) : PyExc := .other message s!"OverflowError({pyRepr message})"

/-- The `str` of a `KeyError` is the `repr` of the key. -/
def keyError (key : String) : PyExc := .other (pyRepr key) s!"KeyError({pyRepr key})"

namespace Json

/-- An optional value, `None` where there is none. -/
def ofOption {α : Type} (f : α → Json) : Option α → Json
  | none => .null
  | some a => f a

/-! ## Conversions -/

/-- `v[key]`. -/
def item (v : Json) (key : String) : Except PyExc Json :=
  match v with
  | .obj fields =>
    match fields.find? fun p => p.1 = key with
    | some p => .ok p.2
    | none => .error (keyError key)
  | .arr _ => .error (typeError "list indices must be integers or slices, not str")
  | .str _ => .error (typeError "string indices must be integers, not 'str'")
  | v => .error (typeError s!"'{v.className}' object is not subscriptable")

/-- `v.get(key, default)`; unlike `get`, a missing key is not the same as `None`. -/
def getOr (v : Json) (key : String) (fallback : Json) : Except PyExc Json :=
  match v with
  | .obj fields => .ok ((fields.find? fun p => p.1 = key).elim fallback (·.2))
  | _ => .error (attributeError s!"'{v.className}' object has no attribute 'get'")

/-- `str(v)`. -/
def strOf (C : JsonCodec) : Json → String
  | .str s => s
  | v => C.reprStr v

/-- `int(v)`; a float is cut off towards zero. -/
def intOf (C : JsonCodec) : Json → Except PyExc ℤ
  | .int n => .ok n
  | .bool b => .ok (if b then 1 else 0)
  | .float (.fin q) => .ok (q.num.tdiv q.den)
  | .float .nan => .error (.valueError (.plain "cannot convert float NaN to integer"))
  | .float _ => .error (overflowError "cannot convert float infinity to integer")
  | .str s => C.intOfText s
  | v => .error (typeError ("int() argument must be a string, a bytes-like object or a real " ++
      s!"number, not '{v.className}'"))

/-- `float(v)`. -/
def floatOf (C : JsonCodec) : Json → Except PyExc PyFloat
  | .float x => .ok x
  | .int n =>
    match PyFloat.ofInt n with
    | some x => .ok x
    | none => .error (overflowError "int too large to convert to float")
  | .bool b => .ok (.fin (if b then 1 else 0))
  | .str s => C.floatOfText s
  | v => .error (typeError ("float() argument must be a string or a real number, " ++
      s!"not '{v.className}'"))

/-- What `for x in v` runs over. -/
def elements : Json → Except PyExc (List Json)
  | .arr xs => .ok xs
  | .str s => .ok (s.toList.map fun c => .str (String.singleton c))
  | .obj fields => .ok (fields.map fun p => .str p.1)
  | v => .error (typeError s!"'{v.className}' object is not iterable")

/-- `tuple(f(x) for x in v)`. -/
def tupleOf {α : Type} (f : Json → Except PyExc α) (v : Json) : Except PyExc (List α) := do
  (← v.elements).mapM f

/-- Decoding what was encoded, element by element. -/
theorem mapM_map_ok {α β ε : Type} {f : β → Except ε α} {g : α → β} {xs : List α}
    (h : ∀ a ∈ xs, f (g a) = .ok a) : (xs.map g).mapM f = .ok xs := by
  induction xs with
  | nil => rfl
  | cons x xs ih =>
    obtain ⟨hx, hxs⟩ := List.forall_mem_cons.mp h
    rw [List.map_cons, List.mapM_cons, hx, ih hxs]
    rfl

/-- One entry of a list that `dict` is called on. -/
def entry (n : ℕ) (v : Json) : Except PyExc (Json × Json) :=
  match v.elements with
  | .ok [key, value] =>
    match key with
    | .arr _ | .obj _ => .error (typeError s!"unhashable type: '{key.className}'")
    | key => .ok (key, value)
  | .ok xs => .error (.valueError (.plain
      s!"dictionary update sequence element #{n} has length {xs.length}; 2 is required"))
  | .error _ => .error (typeError
      s!"cannot convert dictionary update sequence element #{n} to a sequence")

/-- `dict(v)`. Only entries under a string are kept, since nobody reads another; of two under the
same one the later counts, so it comes first. -/
def dictOf : Json → Except PyExc Json
  | .obj fields => .ok (.obj fields)
  | v => do
    let entries ← (← v.elements).zipIdx.mapM fun p => entry p.2 p.1
    return .obj (entries.reverse.filterMap fun p =>
      match p.1 with
      | .str key => some (key, p.2)
      | _ => none)

/-! ## Equality up to the order of keys -/

mutual

/-- The value with the keys of every dictionary in order. -/
def sortKeys : Json → Json
  | .arr xs => .arr (sortItems xs)
  | .obj fields => .obj ((sortFields fields).insertionSort fun p q => p.1 ≤ q.1)
  | .null => .null
  | .bool b => .bool b
  | .int n => .int n
  | .float x => .float x
  | .str s => .str s

def sortItems : List Json → List Json
  | [] => []
  | x :: xs => sortKeys x :: sortItems xs

def sortFields : List (String × Json) → List (String × Json)
  | [] => []
  | (key, x) :: fields => (key, sortKeys x) :: sortFields fields

end

/-- Equal as Python values: the order of keys does not count. -/
def Same (v w : Json) : Prop := v.sortKeys = w.sortKeys

theorem same_refl (v : Json) : v.Same v := rfl

theorem sortItems_eq (xs : List Json) : sortItems xs = xs.map sortKeys := by
  induction xs with
  | nil => rfl
  | cons x xs ih => rw [sortItems, ih, List.map_cons]

theorem sortFields_eq (fields : List (String × Json)) :
    sortFields fields = fields.map fun p => (p.1, p.2.sortKeys) := by
  induction fields with
  | nil => rfl
  | cons p fields ih =>
    obtain ⟨key, x⟩ := p
    rw [sortFields, ih, List.map_cons]

instance : Std.Total fun p q : String × Json => p.1 ≤ q.1 := ⟨fun p q => String.le_total p.1 q.1⟩

instance : IsTrans (String × Json) fun p q => p.1 ≤ q.1 := ⟨fun _ _ _ => String.le_trans⟩

mutual

theorem sortKeys_sortKeys : ∀ v : Json, v.sortKeys.sortKeys = v.sortKeys
  | .arr xs => by rw [sortKeys, sortKeys, sortItems_sortItems xs]
  | .obj fields => by
    have hcomm : sortFields ((sortFields fields).insertionSort fun p q => p.1 ≤ q.1) =
        (sortFields (sortFields fields)).insertionSort fun p q => p.1 ≤ q.1 := by
      rw [sortFields_eq, sortFields_eq (sortFields fields)]
      exact List.map_insertionSort _ _ _ _ fun _ _ _ _ => Iff.rfl
    rw [sortKeys, sortKeys, hcomm, sortFields_sortFields fields,
      (List.pairwise_insertionSort _ _).insertionSort_eq]
  | .null | .bool _ | .int _ | .float _ | .str _ => rfl

theorem sortItems_sortItems : ∀ xs : List Json, sortItems (sortItems xs) = sortItems xs
  | [] => rfl
  | x :: xs => by rw [sortItems, sortItems, sortKeys_sortKeys x, sortItems_sortItems xs]

theorem sortFields_sortFields :
    ∀ fields : List (String × Json), sortFields (sortFields fields) = sortFields fields
  | [] => rfl
  | (key, x) :: fields => by
    rw [sortFields, sortFields, sortKeys_sortKeys x, sortFields_sortFields fields]

end

/-- Putting the keys in order does not change the value. -/
theorem same_sortKeys (v : Json) : v.sortKeys.Same v := sortKeys_sortKeys v

theorem find?_sortFields (fields : List (String × Json)) (key : String) :
    ((sortFields fields).find? fun p => p.1 = key) =
      (fields.find? fun p => p.1 = key).map fun p => (p.1, p.2.sortKeys) := by
  induction fields with
  | nil => rfl
  | cons p fields ih =>
    obtain ⟨k, x⟩ := p
    rw [sortFields, List.find?_cons, List.find?_cons, ih]
    by_cases hk : k = key <;> simp [hk]

/-- An ordered insertion does not pass over an entry with the same key. -/
theorem find?_orderedInsert (p : String × Json) (fields : List (String × Json)) (key : String) :
    ((fields.orderedInsert (fun p q => p.1 ≤ q.1) p).find? fun q => q.1 = key) =
      (p :: fields).find? fun q => q.1 = key := by
  induction fields with
  | nil => rfl
  | cons q fields ih =>
    rw [List.orderedInsert_cons]
    by_cases hle : p.1 ≤ q.1
    · rw [if_pos hle]
    · rw [if_neg hle, List.find?_cons, ih, List.find?_cons, List.find?_cons, List.find?_cons]
      by_cases hq : q.1 = key
      · have hp : p.1 ≠ key := by
          intro hp
          have hpq : p.1 = q.1 := hp.trans hq.symm
          exact hle (hpq ▸ String.le_refl p.1)
        simp [hq, hp]
      · simp [hq]

theorem find?_insertionSort (fields : List (String × Json)) (key : String) :
    ((fields.insertionSort fun p q => p.1 ≤ q.1).find? fun p => p.1 = key) =
      fields.find? fun p => p.1 = key := by
  induction fields with
  | nil => rfl
  | cons p fields ih =>
    rw [List.insertionSort_cons, find?_orderedInsert, List.find?_cons, ih, List.find?_cons]

/-- Two dictionaries that are the same hold the same values under the same keys. -/
theorem find?_same {v : Json} {fields : List (String × Json)} (h : v.Same (.obj fields)) :
    ∃ fields', v = .obj fields' ∧ ∀ key,
      (fields'.find? fun p => p.1 = key).map (fun p => (p.1, p.2.sortKeys)) =
        (fields.find? fun p => p.1 = key).map fun p => (p.1, p.2.sortKeys) := by
  unfold Same at h
  cases v with
  | obj fields' =>
    refine ⟨fields', rfl, fun key => ?_⟩
    rw [sortKeys, sortKeys] at h
    rw [← find?_sortFields, ← find?_sortFields, ← find?_insertionSort, Json.obj.inj h,
      find?_insertionSort]
  | _ => simp [sortKeys] at h

/-- No list and no dictionary. -/
def isScalar : Json → Bool
  | .arr _ | .obj _ => false
  | _ => true

/-- No dictionary, and no list of lists or dictionaries. -/
def isFlat : Json → Bool
  | .arr xs => xs.all isScalar
  | .obj _ => false
  | _ => true

theorem sortKeys_scalar {v : Json} (h : v.isScalar = true) : v.sortKeys = v := by
  cases v <;> first | rfl | cases h

theorem same_scalar {v w : Json} (h : v.Same w) (hw : w.isScalar = true) : v = w := by
  unfold Same at h
  rw [sortKeys_scalar hw] at h
  cases v with
  | arr xs => rw [← h] at hw; cases hw
  | obj fields => rw [← h] at hw; cases hw
  | _ => exact h

theorem same_items {xs ys : List Json} (h : xs.map sortKeys = ys.map sortKeys)
    (hy : ∀ y ∈ ys, y.isScalar = true) : xs = ys := by
  induction xs generalizing ys with
  | nil => exact (List.map_eq_nil_iff.mp h.symm).symm
  | cons x xs ih =>
    cases ys with
    | nil => cases h
    | cons y ys =>
      obtain ⟨hxy, hrest⟩ := List.cons.inj h
      rw [same_scalar hxy (hy y List.mem_cons_self),
        ih hrest fun z hz => hy z (List.mem_cons_of_mem y hz)]

/-- A value without dictionaries is the same as itself only. -/
theorem same_flat {v w : Json} (h : v.Same w) (hw : w.isFlat = true) : v = w := by
  cases w with
  | obj fields => cases hw
  | arr ys =>
    unfold Same at h
    cases v with
    | arr xs =>
      rw [sortKeys, sortKeys, sortItems_eq, sortItems_eq] at h
      rw [same_items (Json.arr.inj h) (List.all_eq_true.mp hw)]
    | _ => simp [sortKeys] at h
  | _ => exact same_scalar h rfl

/-- What stands under a key of a dictionary stands under it, up to the order of keys, in every
dictionary that is the same. -/
theorem find?_of_same {v x : Json} {fields : List (String × Json)} {key : String}
    (h : v.Same (.obj fields)) (hx : (fields.find? fun p => p.1 = key) = some (key, x)) :
    ∃ fields' y, v = .obj fields' ∧ (fields'.find? fun p => p.1 = key) = some (key, y) ∧
      y.Same x := by
  obtain ⟨fields', rfl, hfind⟩ := find?_same h
  have hkey := hfind key
  rw [hx] at hkey
  obtain ⟨⟨k, y⟩, hy, hky⟩ := Option.map_eq_some_iff.mp hkey
  obtain ⟨rfl, hyx⟩ := Prod.mk.inj hky
  exact ⟨fields', y, rfl, hy, hyx⟩

theorem item_same {v x : Json} {fields : List (String × Json)} (key : String)
    (h : v.Same (.obj fields)) (hx : (fields.find? fun p => p.1 = key) = some (key, x)) :
    ∃ y, v.item key = .ok y ∧ y.Same x := by
  obtain ⟨fields', y, rfl, hy, hyx⟩ := find?_of_same h hx
  exact ⟨y, by simp [item, hy], hyx⟩

theorem getOr_same {v x : Json} {fields : List (String × Json)} (key : String) (fallback : Json)
    (h : v.Same (.obj fields)) (hx : (fields.find? fun p => p.1 = key) = some (key, x)) :
    ∃ y, v.getOr key fallback = .ok y ∧ y.Same x := by
  obtain ⟨fields', y, rfl, hy, hyx⟩ := find?_of_same h hx
  exact ⟨y, by simp [getOr, hy], hyx⟩

/-- `get` on a dictionary that is the same. -/
theorem lookup_flat {fields fields' : List (String × Json)} {key : String} {x : Json}
    (h : (Json.obj fields').Same (.obj fields))
    (hx : (fields.find? fun p => p.1 = key) = some (key, x)) (hflat : x.isFlat = true) :
    lookup fields' key = x := by
  obtain ⟨fields'', y, hv, hy, hyx⟩ := find?_of_same h hx
  cases Json.obj.inj hv
  unfold lookup
  rw [hy, ← same_flat hyx hflat]
  rfl

/-- Dictionaries that are the same have the same keys. -/
theorem mem_keys_same {fields fields' : List (String × Json)} {p : String × Json}
    (h : (Json.obj fields').Same (.obj fields)) (hp : p ∈ fields') :
    p.1 ∈ fields.map (·.1) := by
  obtain ⟨fields'', hv, hfind⟩ := find?_same h
  cases Json.obj.inj hv
  have hsome : (fields'.find? fun q => q.1 = p.1).isSome = true :=
    List.find?_isSome.mpr ⟨p, hp, by simp⟩
  have hkey := congrArg Option.isSome (hfind p.1)
  rw [Option.isSome_map, Option.isSome_map, hsome] at hkey
  obtain ⟨q, hq, hqp⟩ := List.find?_isSome.mp hkey.symm
  exact List.mem_map.mpr ⟨q, hq, of_decide_eq_true hqp⟩

/-- Subscripting yields exactly the value that stands under the key, if there is no dictionary in
it. -/
theorem item_flat {v x : Json} {fields : List (String × Json)} (key : String)
    (h : v.Same (.obj fields)) (hx : (fields.find? fun p => p.1 = key) = some (key, x))
    (hflat : x.isFlat = true) : v.item key = .ok x := by
  obtain ⟨y, hy, hyx⟩ := item_same key h hx
  rw [hy, same_flat hyx hflat]

theorem getOr_flat {v x fallback : Json} {fields : List (String × Json)} (key : String)
    (h : v.Same (.obj fields)) (hx : (fields.find? fun p => p.1 = key) = some (key, x))
    (hflat : x.isFlat = true) : v.getOr key fallback = .ok x := by
  obtain ⟨y, hy, hyx⟩ := getOr_same key fallback h hx
  rw [hy, same_flat hyx hflat]

end Json

end RolloutCore
