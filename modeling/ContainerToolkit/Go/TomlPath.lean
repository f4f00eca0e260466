import Mathlib.Data.List.Nodup

/-!
# `ContainerToolkit.Go.TomlPath` — a loaded containerd config, read and written by key path

The containerd engine reads a loaded `*toml.Tree` through `Get("version")`, which hands back the Go
dynamic value stored under the top-level key (or `nil`), and `Keys()`, which lists the top-level keys;
it edits the config through go-toml's path calls: `GetPath(keys)`, `SetPath(keys, v)` and
`DeletePath(keys)` (with `Set` and `Delete` for the top level).

## Contents
- **The document.** A tree is its top-level entries, with the uniqueness of keys that the Go map behind
  it guarantees carried as a field, so an ill-formed tree cannot be built. A value is one of the Go
  types `toml.LoadFile` produces; integers are always `int64`, and the narrower `int` they are converted
  to later is the business of `Containerd.Config`.
- **One table.** Each table is an association list in document order: `upsert` is `Set` on one table
  (the value under the key replaced in place, or the pair appended), `erase` is `Delete`.
- **Key paths.** `getIn`, `setIn`, `deleteIn` follow a key path through nested tables. `SetPath`
  creates the tables it is missing (and replaces a value that is not a table); `GetPath` and
  `DeletePath` stop at one.

Order is a property of the operations, not of the list: go-toml's `Marshal`, which the toolkit's tests
compare, sorts the keys, and nothing here reorders the keys a document already has.

Everything later about the config rests on the path laws of the last sections, stated once:
reading where one just wrote (`getIn_setIn_append`), reading elsewhere (`getIn_setIn_of_diverge`,
`getIn_deleteIn_of_diverge`), reading below a deletion (`getIn_deleteIn_append`), and that deleting
creates nothing (`getIn_deleteIn_of_none`) and deletes nothing that is not there (`deleteIn_of_getIn_none`).
-/

namespace ContainerToolkit.Toml

/-! ## The document -/

/-- The dynamic type and contents of the `interface{}` that `(*toml.Tree).Get` returns for a present
    key: a TOML string, integer (`int64`), float, boolean, date-time, array, table or array of tables. -/
inductive Value where
  | string (s : String)
  | int64 (v : BitVec 64)
  | float64 (f : Float)
  | bool (b : Bool)
  | datetime (rfc3339 : String)
  | array (items : List Value)
  | tree (entries : List (String × Value))
  | treeArray (tables : List (List (String × Value)))

/-- **A loaded TOML document.** Its top-level entries, one per key: go-toml keeps them in a Go map. -/
structure Tree where
  entries : List (String × Value)
  keys_nodup : (entries.map Prod.fst).Nodup

namespace Tree

/-- `(*toml.Tree).Get(key)` for a key without dots: the value stored under `key`, `nil` when absent. -/
def get (t : Tree) (key : String) : Option Value := t.entries.lookup key

/-- `(*toml.Tree).Keys()`: the top-level keys. -/
def keys (t : Tree) : List String := t.entries.map Prod.fst

/-- The empty document (what `toml.LoadFile("/dev/null")` yields). -/
def empty : Tree := ⟨[], List.nodup_nil⟩

end Tree

/-- A TOML table: its entries in document order. -/
abbrev Table := List (String × Value)

@[simp] theorem lookup_cons_ite (a k : String) (v : Value) (es : Table) :
    ((k, v) :: es).lookup a = if a = k then some v else es.lookup a := by
  simp only [List.lookup_cons]
  by_cases h : a = k
  · simp [h]
  · rw [if_neg h, beq_false_of_ne h]

/-! ## One table -/

/-- `Set(key, v)` on one table: the first entry under `key` replaced in place, or `(key, v)` appended. -/
def upsert : Table → String → Value → Table
  | [], k, v => [(k, v)]
  | (k', v') :: es, k, v => if k' = k then (k, v) :: es else (k', v') :: upsert es k v

/-- `Delete(key)` on one table. -/
def erase : Table → String → Table
  | [], _ => []
  | (k', v') :: es, k => if k' = k then erase es k else (k', v') :: erase es k

theorem lookup_upsert (es : Table) (k a : String) (v : Value) :
    (upsert es k v).lookup a = if a = k then some v else es.lookup a := by
  induction es with
  | nil => simp [upsert]
  | cons e es ih =>
    obtain ⟨k', v'⟩ := e
    by_cases hk : k' = k
    · subst hk; by_cases ha : a = k' <;> simp [upsert, ha]
    · by_cases ha : a = k' <;> simp [upsert, hk, ha, ih]

theorem lookup_erase (es : Table) (k a : String) :
    (erase es k).lookup a = if a = k then none else es.lookup a := by
  induction es with
  | nil => simp [erase]
  | cons e es ih =>
    obtain ⟨k', v'⟩ := e
    by_cases hk : k' = k
    · subst hk
      rw [show erase ((k', v') :: es) k' = erase es k' by simp [erase], ih]
      by_cases ha : a = k' <;> simp [ha]
    · by_cases ha : a = k' <;> simp [erase, hk, ha, ih]

/-- Writing back the value a table already holds changes nothing. -/
theorem upsert_of_lookup {es : Table} {k : String} {v : Value} (h : es.lookup k = some v) :
    upsert es k v = es := by
  induction es with
  | nil => cases h
  | cons e es ih =>
    obtain ⟨k', v'⟩ := e
    by_cases hk : k' = k
    · subst hk; simp_all [upsert]
    · simp only [lookup_cons_ite, Ne.symm hk, if_false] at h
      simp [upsert, hk, ih h]

theorem erase_of_lookup_none {es : Table} {k : String} (h : es.lookup k = none) : erase es k = es := by
  induction es with
  | nil => rfl
  | cons e es ih =>
    obtain ⟨k', v'⟩ := e
    by_cases hk : k' = k
    · subst hk; simp at h
    · simp only [lookup_cons_ite, Ne.symm hk, if_false] at h
      simp [erase, hk, ih h]

theorem mem_keys_upsert {es : Table} {k x : String} {v : Value} :
    x ∈ (upsert es k v).map Prod.fst ↔ x = k ∨ x ∈ es.map Prod.fst := by
  induction es with
  | nil => simp [upsert]
  | cons e es ih =>
    obtain ⟨k', v'⟩ := e
    by_cases hk : k' = k
    · subst hk; simp [upsert]
    · simp only [upsert, hk, if_false, List.map_cons, List.mem_cons, ih]
      exact or_left_comm

theorem nodup_upsert {es : Table} (k : String) (v : Value) (h : (es.map Prod.fst).Nodup) :
    ((upsert es k v).map Prod.fst).Nodup := by
  induction es with
  | nil => simp [upsert]
  | cons e es ih =>
    obtain ⟨k', v'⟩ := e
    rw [List.map_cons, List.nodup_cons] at h
    by_cases hk : k' = k
    · subst hk; simpa [upsert] using h
    · simp only [upsert, hk, if_false, List.map_cons, List.nodup_cons]
      exact ⟨fun h' => (mem_keys_upsert.mp h').elim hk h.1, ih h.2⟩

theorem erase_sublist (es : Table) (k : String) : (erase es k).Sublist es := by
  induction es with
  | nil => exact List.Sublist.slnil
  | cons e es ih =>
    unfold erase
    split_ifs
    · exact ih.cons e
    · exact ih.cons₂ e

theorem upsert_upsert_self (es : Table) (k : String) (v w : Value) : upsert (upsert es k v) k w = upsert es k w := by
  induction es with
  | nil => simp [upsert]
  | cons e es ih =>
    obtain ⟨k', v'⟩ := e
    by_cases hk : k' = k <;> simp [upsert, hk, ih]

/-- Deleting a key undoes every write under it. -/
theorem erase_upsert_self (es : Table) (k : String) (v : Value) : erase (upsert es k v) k = erase es k := by
  induction es with
  | nil => simp [upsert, erase]
  | cons e es ih =>
    obtain ⟨k', v'⟩ := e
    by_cases hk : k' = k
    · subst hk; simp [upsert, erase]
    · simp [upsert, erase, hk, ih]

theorem erase_upsert_of_ne {k k' : String} (h : k ≠ k') (es : Table) (v : Value) :
    erase (upsert es k v) k' = upsert (erase es k') k v := by
  induction es with
  | nil => simp [upsert, erase, h]
  | cons e es ih =>
    obtain ⟨a, w⟩ := e
    by_cases ha : a = k
    · subst ha; simp [upsert, erase, h]
    · by_cases ha' : a = k' <;> simp [upsert, erase, ha, ha', ih, Ne.symm h]

theorem erase_erase_self (es : Table) (k : String) : erase (erase es k) k = erase es k :=
  erase_of_lookup_none (by rw [lookup_erase, if_pos rfl])

/-! ## Key paths -/

/-- The table `SetPath` descends into under `key`: the one stored there, or a new empty one when the key
    is absent or holds a value that is not a table. -/
def subtable (es : Table) (key : String) : Table :=
  match es.lookup key with
  | some (.tree sub) => sub
  | _ => []

/-- `GetPath(keys)` for a non-empty path: `nil` when a key is missing or a step is not a table. -/
def getIn : List String → Table → Option Value
  | [], _ => none
  | [k], es => es.lookup k
  | k :: k' :: ks, es =>
    match es.lookup k with
    | some (.tree sub) => getIn (k' :: ks) sub
    | _ => none

/-- `SetPath(keys, v)`. -/
def setIn : List String → Value → Table → Table
  | [], _, es => es
  | [k], v, es => upsert es k v
  | k :: k' :: ks, v, es => upsert es k (.tree (setIn (k' :: ks) v (subtable es k)))

/-- `DeletePath(keys)`: nothing happens when the path does not lead to a value. -/
def deleteIn : List String → Table → Table
  | [], es => es
  | [k], es => erase es k
  | k :: k' :: ks, es =>
    match es.lookup k with
    | some (.tree sub) => upsert es k (.tree (deleteIn (k' :: ks) sub))
    | _ => es

/-- The value at a path below `v`: `v` itself for the empty path. -/
def Value.at : Value → List String → Option Value
  | v, [] => some v
  | .tree sub, k :: ks => getIn (k :: ks) sub
  | _, _ :: _ => none

@[simp] theorem Value.at_nil (v : Value) : v.at [] = some v := by cases v <;> rfl

/-- The two paths part at some key: neither is a prefix of the other. -/
def diverge : List String → List String → Bool
  | [], _ => false
  | _ :: _, [] => false
  | k :: ks, k' :: ks' => k != k' || diverge ks ks'

/-- Paths that part stay apart below the point where they part. -/
theorem diverge_append_left {p q : List String} (r : List String) (h : diverge p q) :
    diverge (p ++ r) q := by
  induction p generalizing q with
  | nil => simp [diverge] at h
  | cons k ks ih =>
    cases q with
    | nil => simp [diverge] at h
    | cons k' ks' =>
      simp only [diverge, Bool.or_eq_true] at h ⊢
      exact h.imp id ih

/-- Paths under a common prefix part where their rests part. -/
theorem diverge_append_append (p : List String) {a b : List String} (h : diverge a b) :
    diverge (p ++ a) (p ++ b) := by
  induction p with
  | nil => exact h
  | cons k ks ih => simp [diverge, ih]

@[simp] theorem getIn_nil_table (p : List String) : getIn p [] = none := by
  match p with
  | [] => rfl
  | [_] => rfl
  | _ :: _ :: _ => rfl

/-- One step down a path: look the key up, then read below what is there. -/
theorem getIn_cons (k : String) (ks : List String) (es : Table) :
    getIn (k :: ks) es = (es.lookup k).bind (fun v => v.at ks) := by
  cases ks with
  | nil => show es.lookup k = _; cases es.lookup k <;> simp
  | cons k' ks =>
    simp only [getIn]
    cases es.lookup k with
    | none => rfl
    | some v => cases v <;> rfl

/-- One step down a path that goes on: read on in the table `SetPath` would descend into. -/
theorem getIn_cons_of_ne_nil {ks : List String} (hks : ks ≠ []) (k : String) (es : Table) :
    getIn (k :: ks) es = getIn ks (subtable es k) := by
  obtain _ | ⟨k', ks⟩ := ks
  · exact absurd rfl hks
  rw [getIn_cons]
  unfold subtable
  cases es.lookup k with
  | none => simp
  | some v => cases v <;> simp [Value.at]

/-- Reading below the value at `p`. -/
theorem getIn_append {p : List String} (hp : p ≠ []) (r : List String) (es : Table) :
    getIn (p ++ r) es = (getIn p es).bind (fun v => v.at r) := by
  induction p generalizing es with
  | nil => exact absurd rfl hp
  | cons k ks ih =>
    rw [List.cons_append, getIn_cons, getIn_cons]
    cases ks with
    | nil => simp
    | cons k' ks =>
      cases es.lookup k with
      | none => rfl
      | some v =>
        cases v with
        | tree sub => exact ih (List.cons_ne_nil k' ks) sub
        | _ => rfl

theorem subtable_upsert (es : Table) (k a : String) (v : Value) :
    subtable (upsert es k v) a = if a = k then (match v with | .tree sub => sub | _ => []) else subtable es a := by
  unfold subtable
  rw [lookup_upsert]
  by_cases ha : a = k
  · rw [if_pos ha, if_pos ha]; cases v <;> rfl
  · rw [if_neg ha, if_neg ha]

theorem setIn_cons_of_ne_nil {ks : List String} (hks : ks ≠ []) (k : String) (v : Value) (es : Table) :
    setIn (k :: ks) v es = upsert es k (.tree (setIn ks v (subtable es k))) := by
  obtain _ | ⟨k', ks⟩ := ks
  · exact absurd rfl hks
  rfl

theorem setIn_cons (k : String) (ks : List String) (v : Value) (es : Table) :
    ∃ w, setIn (k :: ks) v es = upsert es k w := by
  cases ks with
  | nil => exact ⟨v, rfl⟩
  | cons k' ks => exact ⟨_, rfl⟩

/-! ## Reading after `SetPath` -/

/-- **Reading at or below the path just written** reads into the value written. -/
theorem getIn_setIn_append {p : List String} (hp : p ≠ []) (r : List String) (v : Value) (es : Table) :
    getIn (p ++ r) (setIn p v es) = v.at r := by
  induction p generalizing es with
  | nil => exact absurd rfl hp
  | cons k ks ih =>
    cases ks with
    | nil => simp [getIn_cons, setIn, lookup_upsert]
    | cons k' ks =>
      have hne : k' :: ks ≠ [] := List.cons_ne_nil k' ks
      rw [List.cons_append, getIn_cons_of_ne_nil (by simp), setIn_cons_of_ne_nil hne, subtable_upsert,
        if_pos rfl]
      exact ih hne _

/-- **Reading above the path just written** finds a table. -/
theorem getIn_setIn_prefix {q r : List String} (hq : q ≠ []) (hr : r ≠ []) (v : Value) (es : Table) :
    ∃ sub, getIn q (setIn (q ++ r) v es) = some (.tree sub) := by
  induction q generalizing es with
  | nil => exact absurd rfl hq
  | cons k ks ih =>
    cases ks with
    | nil =>
      rw [List.singleton_append, setIn_cons_of_ne_nil hr]
      exact ⟨setIn r v (subtable es k), by simp [getIn, lookup_upsert]⟩
    | cons k' ks =>
      have hne : k' :: ks ≠ [] := List.cons_ne_nil k' ks
      rw [List.cons_append, setIn_cons_of_ne_nil (by simp), getIn_cons_of_ne_nil hne, subtable_upsert,
        if_pos rfl]
      exact ih hne _

theorem getIn_setIn_self {p : List String} (hp : p ≠ []) (v : Value) (es : Table) :
    getIn p (setIn p v es) = some v := by
  simpa [Value.at] using getIn_setIn_append hp [] v es

/-- **Reading where `SetPath` did not write** reads what was there. -/
theorem getIn_setIn_of_diverge {p q : List String} (h : diverge p q) (v : Value) (es : Table) :
    getIn q (setIn p v es) = getIn q es := by
  induction p generalizing q es with
  | nil => simp [diverge] at h
  | cons k ks ih =>
    obtain _ | ⟨k', qs⟩ := q
    · simp [diverge] at h
    by_cases hk : k' = k
    · subst hk
      have hks : diverge ks qs := by simpa [diverge] using h
      have hks' : ks ≠ [] := by rintro rfl; simp [diverge] at hks
      have hqs : qs ≠ [] := by rintro rfl; cases ks <;> simp [diverge] at hks
      rw [getIn_cons_of_ne_nil hqs, getIn_cons_of_ne_nil hqs, setIn_cons_of_ne_nil hks', subtable_upsert,
        if_pos rfl]
      exact ih hks _
    · obtain ⟨w, hw⟩ := setIn_cons k ks v es
      rw [hw, getIn_cons, getIn_cons, lookup_upsert, if_neg hk]

/-! ## Reading after `DeletePath` -/

theorem deleteIn_cons_of_ne_nil {ks : List String} (hks : ks ≠ []) (k : String) (es : Table) :
    deleteIn (k :: ks) es =
      match es.lookup k with
      | some (.tree sub) => upsert es k (.tree (deleteIn ks sub))
      | _ => es := by
  obtain _ | ⟨k', ks⟩ := ks
  · exact absurd rfl hks
  rfl

/-- **Nothing is left at or below a deleted path.** -/
theorem getIn_deleteIn_append {p : List String} (hp : p ≠ []) (r : List String) (es : Table) :
    getIn (p ++ r) (deleteIn p es) = none := by
  induction p generalizing es with
  | nil => exact absurd rfl hp
  | cons k ks ih =>
    cases ks with
    | nil => simp [getIn_cons, deleteIn, lookup_erase]
    | cons k' ks =>
      have hne : k' :: ks ≠ [] := List.cons_ne_nil k' ks
      rw [List.cons_append, getIn_cons_of_ne_nil (by simp), deleteIn_cons_of_ne_nil hne]
      rcases hl : es.lookup k with _ | v
      · simp [subtable, hl]
      · cases v with
        | tree sub =>
          dsimp only
          rw [subtable_upsert, if_pos rfl]
          exact ih hne _
        | _ => simp [subtable, hl]

/-- **Deleting elsewhere** leaves a path's value alone. -/
theorem getIn_deleteIn_of_diverge {p q : List String} (h : diverge p q) (es : Table) :
    getIn q (deleteIn p es) = getIn q es := by
  induction p generalizing q es with
  | nil => simp [diverge] at h
  | cons k ks ih =>
    obtain _ | ⟨k', qs⟩ := q
    · simp [diverge] at h
    by_cases hk : k' = k
    · subst hk
      have hks : diverge ks qs := by simpa [diverge] using h
      have hks' : ks ≠ [] := by rintro rfl; simp [diverge] at hks
      have hqs : qs ≠ [] := by rintro rfl; cases ks <;> simp [diverge] at hks
      rw [deleteIn_cons_of_ne_nil hks']
      split <;> rename_i sub hl
      · rw [getIn_cons_of_ne_nil hqs, getIn_cons_of_ne_nil hqs, subtable_upsert, if_pos rfl, ih hks]
        simp [subtable, hl]
      · rfl
    · cases ks with
      | nil => rw [getIn_cons, getIn_cons]; simp [deleteIn, lookup_erase, hk]
      | cons k2 ks =>
        rw [deleteIn_cons_of_ne_nil (List.cons_ne_nil k2 ks)]
        split
        · rw [getIn_cons, getIn_cons, lookup_upsert, if_neg hk]
        · rfl

/-- **Deleting creates nothing**: a path without a value still has none. -/
theorem getIn_deleteIn_of_none (p : List String) {q : List String} {es : Table} (h : getIn q es = none) :
    getIn q (deleteIn p es) = none := by
  induction p generalizing q es with
  | nil => exact h
  | cons k ks ih =>
    obtain _ | ⟨k', qs⟩ := q
    · rfl
    by_cases hk : k' = k
    · subst hk
      cases ks with
      | nil => simp [getIn_cons, deleteIn, lookup_erase]
      | cons k2 ks =>
        rw [deleteIn_cons_of_ne_nil (List.cons_ne_nil k2 ks)]
        split <;> rename_i sub hl
        · cases qs with
          | nil => simp [getIn, hl] at h
          | cons q2 qs =>
            rw [getIn_cons_of_ne_nil (List.cons_ne_nil q2 qs), subtable_upsert, if_pos rfl]
            rw [getIn_cons_of_ne_nil (List.cons_ne_nil q2 qs)] at h
            exact ih (by simpa [subtable, hl] using h)
        · exact h
    · cases ks with
      | nil => rw [getIn_cons] at h ⊢; simpa [deleteIn, lookup_erase, hk] using h
      | cons k2 ks =>
        rw [deleteIn_cons_of_ne_nil (List.cons_ne_nil k2 ks)]
        split
        · rw [getIn_cons] at h ⊢; rwa [lookup_upsert, if_neg hk]
        · exact h

/-- **Deleting what is not there changes nothing.** -/
theorem deleteIn_of_getIn_none {p : List String} {es : Table} (h : getIn p es = none) :
    deleteIn p es = es := by
  induction p generalizing es with
  | nil => rfl
  | cons k ks ih =>
    cases ks with
    | nil => exact erase_of_lookup_none h
    | cons k2 ks =>
      rw [deleteIn_cons_of_ne_nil (List.cons_ne_nil k2 ks)]
      split <;> rename_i sub hl
      · rw [getIn_cons_of_ne_nil (List.cons_ne_nil k2 ks)] at h
        rw [ih (by simpa [subtable, hl] using h)]
        exact upsert_of_lookup hl
      · rfl

/-- **Deleting keeps tables tables**: a table on a path is still one afterwards, or is gone. -/
theorem getIn_deleteIn_table (p : List String) {q : List String} {es sub : Table}
    (h : getIn q es = some (.tree sub)) :
    getIn q (deleteIn p es) = none ∨ ∃ sub', getIn q (deleteIn p es) = some (.tree sub') := by
  induction p generalizing q es sub with
  | nil => exact .inr ⟨sub, h⟩
  | cons k ks ih =>
    obtain _ | ⟨k', qs⟩ := q
    · simp [getIn] at h
    by_cases hk : k' = k
    · subst hk
      cases ks with
      | nil => exact .inl (by simp [getIn_cons, deleteIn, lookup_erase])
      | cons k2 ks =>
        rw [deleteIn_cons_of_ne_nil (List.cons_ne_nil k2 ks)]
        split <;> rename_i sub0 hl
        · cases qs with
          | nil => exact .inr ⟨deleteIn (k2 :: ks) sub0, by simp [getIn, lookup_upsert]⟩
          | cons q2 qs =>
            rw [getIn_cons_of_ne_nil (List.cons_ne_nil q2 qs), subtable_upsert, if_pos rfl]
            rw [getIn_cons_of_ne_nil (List.cons_ne_nil q2 qs)] at h
            exact ih (by simpa [subtable, hl] using h)
        · exact .inr ⟨sub, h⟩
    · rw [getIn_deleteIn_of_diverge (by simp [diverge, Ne.symm hk])]
      exact .inr ⟨sub, h⟩

/-! ## The top level of a document -/

@[simp] theorem deleteIn_nil_table (p : List String) : deleteIn p [] = [] := by
  match p with
  | [] => rfl
  | [_] => rfl
  | _ :: _ :: _ => rfl

/-- A write below the key `k` only touches the entry under `k`. -/
theorem erase_setIn_cons (k : String) (ks : List String) (v : Value) (es : Table) :
    erase (setIn (k :: ks) v es) k = erase es k := by
  obtain ⟨w, hw⟩ := setIn_cons k ks v es
  rw [hw, erase_upsert_self]

/-- A deletion at or below the key `k` only touches the entry under `k`. -/
theorem erase_deleteIn_cons (k : String) (ks : List String) (es : Table) :
    erase (deleteIn (k :: ks) es) k = erase es k := by
  cases ks with
  | nil => exact erase_erase_self es k
  | cons k' ks =>
    simp only [deleteIn]
    split
    · exact erase_upsert_self _ _ _
    · rfl

theorem nodup_setIn {es : Table} (p : List String) (v : Value) (h : (es.map Prod.fst).Nodup) :
    ((setIn p v es).map Prod.fst).Nodup := by
  cases p with
  | nil => exact h
  | cons k ks =>
    obtain ⟨w, hw⟩ := setIn_cons k ks v es
    rw [hw]; exact nodup_upsert k w h

theorem nodup_deleteIn {es : Table} (p : List String) (h : (es.map Prod.fst).Nodup) :
    ((deleteIn p es).map Prod.fst).Nodup := by
  match p with
  | [] => exact h
  | [k] => exact ((erase_sublist es k).map Prod.fst).nodup h
  | k :: k2 :: ks =>
    rw [deleteIn_cons_of_ne_nil (List.cons_ne_nil k2 ks)]
    split
    · exact nodup_upsert k _ h
    · exact h

namespace Tree

theorem ext {t t' : Tree} (h : t.entries = t'.entries) : t = t' := by
  cases t; cases t'; cases h; rfl

/-- `(*toml.Tree).GetPath(keys)`. -/
def getPath (t : Tree) (p : List String) : Option Value := getIn p t.entries

/-- `(*toml.Tree).SetPath(keys, v)`. -/
def setPath (t : Tree) (p : List String) (v : Value) : Tree :=
  ⟨setIn p v t.entries, nodup_setIn p v t.keys_nodup⟩

/-- `(*toml.Tree).DeletePath(keys)`. -/
def deletePath (t : Tree) (p : List String) : Tree :=
  ⟨deleteIn p t.entries, nodup_deleteIn p t.keys_nodup⟩

theorem deletePath_entries (t : Tree) (p : List String) : (t.deletePath p).entries = deleteIn p t.entries := rfl

theorem getPath_setPath_append {p : List String} (hp : p ≠ []) (r : List String) (t : Tree) (v : Value) :
    (t.setPath p v).getPath (p ++ r) = v.at r :=
  getIn_setIn_append hp r v t.entries

theorem getPath_setPath_self {p : List String} (hp : p ≠ []) (t : Tree) (v : Value) :
    (t.setPath p v).getPath p = some v :=
  getIn_setIn_self hp v t.entries

theorem getPath_setPath_prefix {q r : List String} (hq : q ≠ []) (hr : r ≠ []) (t : Tree) (v : Value) :
    ∃ sub, (t.setPath (q ++ r) v).getPath q = some (.tree sub) :=
  getIn_setIn_prefix hq hr v t.entries

theorem getPath_append {p : List String} (hp : p ≠ []) (r : List String) (t : Tree) :
    t.getPath (p ++ r) = (t.getPath p).bind (fun v => v.at r) :=
  getIn_append hp r t.entries

theorem getPath_setPath_of_diverge {p q : List String} (h : diverge p q) (t : Tree) (v : Value) :
    (t.setPath p v).getPath q = t.getPath q :=
  getIn_setIn_of_diverge h v t.entries

theorem getPath_deletePath_append {p : List String} (hp : p ≠ []) (r : List String) (t : Tree) :
    (t.deletePath p).getPath (p ++ r) = none :=
  getIn_deleteIn_append hp r t.entries

theorem getPath_deletePath_self {p : List String} (hp : p ≠ []) (t : Tree) : (t.deletePath p).getPath p = none := by
  simpa using getPath_deletePath_append hp [] t

theorem getPath_deletePath_of_diverge {p q : List String} (h : diverge p q) (t : Tree) :
    (t.deletePath p).getPath q = t.getPath q :=
  getIn_deleteIn_of_diverge h t.entries

theorem getPath_deletePath_of_none (p : List String) {q : List String} {t : Tree} (h : t.getPath q = none) :
    (t.deletePath p).getPath q = none :=
  getIn_deleteIn_of_none p h

theorem getPath_deletePath_table (p : List String) {q : List String} {t : Tree} {sub : Table}
    (h : t.getPath q = some (.tree sub)) :
    (t.deletePath p).getPath q = none ∨ ∃ sub', (t.deletePath p).getPath q = some (.tree sub') :=
  getIn_deleteIn_table p h

theorem deletePath_of_getPath_none {p : List String} {t : Tree} (h : t.getPath p = none) :
    t.deletePath p = t :=
  ext (deleteIn_of_getIn_none h)

/-- The string at a path, when there is one. -/
def stringAt (t : Tree) (p : List String) : Option String :=
  match t.getPath p with
  | some (.string s) => some s
  | _ => none

theorem stringAt_congr {t t' : Tree} {p : List String} (h : t.getPath p = t'.getPath p) :
    t.stringAt p = t'.stringAt p := by
  unfold stringAt; rw [h]

end Tree

end ContainerToolkit.Toml
