import Mathlib.Data.List.Nodup

/-!
# Insertion-ordered dictionaries

A dictionary that remembers the order in which its keys arrived: inserting an absent key appends
it, removing a key keeps the order of the others. The keys are distinct by construction.
-/

/-- Key-value pairs in insertion order, with distinct keys. -/
structure OrderedDict (κ ν : Type*) where
  entries : List (κ × ν)
  nodup : (entries.map Prod.fst).Nodup
  deriving DecidableEq

namespace OrderedDict

variable {κ ν : Type*} [DecidableEq κ]

omit [DecidableEq κ] in
@[ext] theorem ext {d e : OrderedDict κ ν} (h : d.entries = e.entries) : d = e := by
  cases d; cases e; simp_all

/-- The empty dictionary; also the result of clearing one. -/
def empty : OrderedDict κ ν := ⟨[], List.nodup_nil⟩

def keys (d : OrderedDict κ ν) : List κ := d.entries.map Prod.fst

def values (d : OrderedDict κ ν) : List ν := d.entries.map Prod.snd

def size (d : OrderedDict κ ν) : ℕ := d.entries.length

def get? (d : OrderedDict κ ν) (k : κ) : Option ν :=
  (d.entries.find? fun e => e.1 = k).map Prod.snd

/-- Overwrite the value of a present key in place, or append an absent one. -/
def insert (d : OrderedDict κ ν) (k : κ) (v : ν) : OrderedDict κ ν :=
  if h : k ∈ d.keys then
    ⟨d.entries.map fun e => if e.1 = k then (k, v) else e, by
      have hf : (Prod.fst ∘ fun e : κ × ν => if e.1 = k then (k, v) else e) = Prod.fst := by
        funext e
        by_cases he : e.1 = k <;> simp [he]
      rw [List.map_map, hf]
      exact d.nodup⟩
  else
    ⟨d.entries ++ [(k, v)], by
      rw [List.map_append, List.map_singleton, List.nodup_append]
      refine ⟨d.nodup, List.nodup_singleton k, fun a ha b hb => ?_⟩
      rw [List.mem_singleton] at hb
      intro hab
      rw [hab, hb] at ha
      exact h ha⟩

def erase (d : OrderedDict κ ν) (k : κ) : OrderedDict κ ν :=
  ⟨d.entries.filter fun e => e.1 ≠ k, d.nodup.sublist (List.filter_sublist.map _)⟩

omit [DecidableEq κ] in
@[simp] theorem entries_empty : (empty : OrderedDict κ ν).entries = [] := rfl

omit [DecidableEq κ] in
@[simp] theorem values_empty : (empty : OrderedDict κ ν).values = [] := rfl

omit [DecidableEq κ] in
theorem values_eq_nil {d : OrderedDict κ ν} : d.values = [] ↔ d.entries = [] :=
  List.map_eq_nil_iff

omit [DecidableEq κ] in
theorem mem_values {d : OrderedDict κ ν} {v : ν} : v ∈ d.values ↔ ∃ k, (k, v) ∈ d.entries := by
  simp [values]

omit [DecidableEq κ] in
/-- Two entries of one key are the same entry. -/
theorem entry_unique {d : OrderedDict κ ν} {k : κ} {v w : ν} (hv : (k, v) ∈ d.entries)
    (hw : (k, w) ∈ d.entries) : v = w := by
  have h := List.inj_on_of_nodup_map d.nodup hv hw rfl
  exact (Prod.mk.inj h).2

theorem get?_eq_some {d : OrderedDict κ ν} {k : κ} {v : ν} :
    d.get? k = some v ↔ (k, v) ∈ d.entries := by
  unfold get?
  constructor
  · intro h
    obtain ⟨e, he, rfl⟩ := Option.map_eq_some_iff.mp h
    have hk : e.1 = k := by simpa using List.find?_some he
    rw [← hk]
    exact List.mem_of_find?_eq_some he
  · intro h
    cases hf : d.entries.find? fun e => e.1 = k with
    | none =>
      have := List.find?_eq_none.mp hf _ h
      simp at this
    | some e =>
      have hk : e.1 = k := by simpa using List.find?_some hf
      have he : (k, e.2) ∈ d.entries := by
        rw [← hk]
        exact List.mem_of_find?_eq_some hf
      rw [Option.map_some, entry_unique he h]

theorem entries_insert {d : OrderedDict κ ν} {k : κ} (h : k ∉ d.keys) (v : ν) :
    (d.insert k v).entries = d.entries ++ [(k, v)] := by
  unfold insert
  rw [dif_neg h]

theorem keys_insert {d : OrderedDict κ ν} {k : κ} (h : k ∉ d.keys) (v : ν) :
    (d.insert k v).keys = d.keys ++ [k] := by
  unfold keys
  rw [entries_insert h, List.map_append, List.map_singleton]

theorem values_insert {d : OrderedDict κ ν} {k : κ} (h : k ∉ d.keys) (v : ν) :
    (d.insert k v).values = d.values ++ [v] := by
  unfold values
  rw [entries_insert h, List.map_append, List.map_singleton]

@[simp] theorem mem_entries_erase {d : OrderedDict κ ν} {k : κ} {e : κ × ν} :
    e ∈ (d.erase k).entries ↔ e ∈ d.entries ∧ e.1 ≠ k := by
  simp [erase]

omit [DecidableEq κ] in
theorem mem_keys {d : OrderedDict κ ν} {k : κ} : k ∈ d.keys ↔ ∃ v, (k, v) ∈ d.entries := by
  simp [keys]

theorem keys_erase (d : OrderedDict κ ν) (k : κ) :
    (d.erase k).keys = d.keys.filter fun k' => k' ≠ k := by
  unfold keys erase
  rw [List.filter_map]
  rfl

theorem values_erase_sublist (d : OrderedDict κ ν) (k : κ) :
    (d.erase k).values.Sublist d.values :=
  List.filter_sublist.map _

/-- Removing a present key takes one entry out. -/
theorem values_erase_perm {d : OrderedDict κ ν} {k : κ} {v : ν} (h : d.get? k = some v) :
    d.values.Perm (v :: (d.erase k).values) := by
  have hv : (k, v) ∈ d.entries := get?_eq_some.mp h
  have hperm : d.entries.Perm ((k, v) :: (d.erase k).entries) := by
    rw [List.perm_ext_iff_of_nodup d.nodup.of_map
      (List.nodup_cons.mpr ⟨by simp, (d.erase k).nodup.of_map⟩)]
    rintro ⟨k', v'⟩
    rw [List.mem_cons, mem_entries_erase]
    constructor
    · intro he
      by_cases hk : k' = k
      · subst hk
        exact .inl (by rw [entry_unique he hv])
      · exact .inr ⟨he, hk⟩
    · rintro (he | he)
      · rwa [he]
      · exact he.1
  exact hperm.map Prod.snd

theorem mem_keys_iff_isSome {d : OrderedDict κ ν} {k : κ} :
    k ∈ d.keys ↔ (d.get? k).isSome = true := by
  rw [mem_keys, Option.isSome_iff_exists]
  exact exists_congr fun v => get?_eq_some.symm

/-- Reading a key after an insertion. -/
theorem get?_insert (d : OrderedDict κ ν) (k k' : κ) (v : ν) :
    (d.insert k v).get? k' = if k' = k then some v else d.get? k' := by
  by_cases hk : k ∈ d.keys
  · have hentries : (d.insert k v).entries =
        d.entries.map fun e => if e.1 = k then (k, v) else e := by
      unfold insert
      rw [dif_pos hk]
    by_cases hkk : k' = k
    · subst hkk
      obtain ⟨w, hw⟩ := mem_keys.mp hk
      rw [if_pos rfl, get?_eq_some, hentries]
      exact List.mem_map.mpr ⟨(k', w), hw, if_pos rfl⟩
    · rw [if_neg hkk]
      apply Option.ext
      intro w
      rw [get?_eq_some, get?_eq_some, hentries, List.mem_map]
      constructor
      · rintro ⟨e, he, hew⟩
        by_cases hek : e.1 = k
        · rw [if_pos hek] at hew
          exact absurd (Prod.mk.inj hew).1.symm hkk
        · rw [if_neg hek] at hew
          rwa [← hew]
      · intro he
        exact ⟨(k', w), he, if_neg hkk⟩
  · unfold get?
    rw [entries_insert hk, List.find?_append]
    by_cases hkk : k' = k
    · subst hkk
      have hnone : d.entries.find? (fun e => e.1 = k') = none := by
        rw [List.find?_eq_none]
        intro e he hek
        exact hk (mem_keys.mpr ⟨e.2, by rwa [← of_decide_eq_true hek]⟩)
      simp [hnone]
    · have hne : ¬ k = k' := fun h => hkk h.symm
      simp [hkk, hne]

/-- Reading a key after a removal. -/
theorem get?_erase (d : OrderedDict κ ν) (k k' : κ) :
    (d.erase k).get? k' = if k' = k then none else d.get? k' := by
  apply Option.ext
  intro v
  rw [get?_eq_some, mem_entries_erase]
  by_cases hk : k' = k
  · simp [hk]
  · rw [if_neg hk, get?_eq_some]
    exact and_iff_left hk

/-- Where every value knows its key, a key is read by searching the values. -/
theorem find?_values {d : OrderedDict κ ν} {key : ν → κ}
    (h : ∀ k v, (k, v) ∈ d.entries → key v = k) (k : κ) :
    (d.values.find? fun v => key v = k) = d.get? k := by
  have hfind : ∀ l : List (κ × ν), (∀ e ∈ l, key e.2 = e.1) →
      l.find? (fun e => key e.2 = k) = l.find? fun e => e.1 = k := by
    intro l
    induction l with
    | nil => intro _; rfl
    | cons e l ih =>
      intro hl
      rw [List.find?_cons, List.find?_cons, hl e (List.mem_cons_self ..),
        ih fun e' he' => hl e' (List.mem_cons_of_mem _ he')]
  unfold values get?
  rw [List.find?_map]
  exact congrArg _ (hfind d.entries fun e he => h e.1 e.2 he)

/-- The dictionary of some pairs: of two with one key the later counts. -/
def ofPairs (l : List (κ × ν)) : OrderedDict κ ν := l.foldl (fun d p => d.insert p.1 p.2) empty

theorem get?_foldl_insert (l : List (κ × ν)) (d : OrderedDict κ ν) (k : κ) :
    (l.foldl (fun d p => d.insert p.1 p.2) d).get? k =
      (l.reverse.find? fun p => p.1 = k).elim (d.get? k) fun p => some p.2 := by
  induction l generalizing d with
  | nil => rfl
  | cons p l ih =>
    rw [List.foldl_cons, ih, List.reverse_cons, List.find?_append]
    cases l.reverse.find? fun p => p.1 = k with
    | some q => rfl
    | none =>
      rw [Option.elim_none, get?_insert]
      by_cases hp : p.1 = k
      · simp [hp]
      · have hne : ¬ k = p.1 := fun h => hp h.symm
        simp [hp, hne]

theorem get?_ofPairs (l : List (κ × ν)) (k : κ) :
    (ofPairs l).get? k = (l.reverse.find? fun p => p.1 = k).map Prod.snd := by
  unfold ofPairs
  rw [get?_foldl_insert]
  cases l.reverse.find? fun p => p.1 = k <;> rfl

theorem mem_keys_ofPairs {l : List (κ × ν)} {k : κ} :
    k ∈ (ofPairs l).keys ↔ k ∈ l.map Prod.fst := by
  rw [mem_keys_iff_isSome, get?_ofPairs, Option.isSome_map, List.find?_isSome]
  simp

end OrderedDict
