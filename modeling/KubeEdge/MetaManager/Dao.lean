import Mathlib.Data.List.AList

set_option autoImplicit false

/-!
# The edge's meta table

`dao.Meta` rows, keyed by `key`, the table's primary key. `SaveMeta` inserts a
row and drops the uniqueness error of a key already stored, so it never
replaces a row; `InsertOrUpdate` replaces it (`INSERT OR REPLACE`);
`DeleteMetaByKey` deletes it; `QueryMeta` selects the values of the rows whose
key, or type, is the condition, in the table's order (SQL leaves the order
open). A call may fail instead, leaving the table as it was: `Dao` is what the
database answers the calls of one step of the meta manager.
-/

namespace KubeEdge.MetaManager

structure Meta where
  Key : String
  type : String
  Value : String
  deriving DecidableEq, Repr

abbrev MetaTable := AList (fun _ : String => String × String)

def SaveMeta (m : Meta) (table : MetaTable) : MetaTable :=
  -- the insert of a stored key fails on the primary key, and `SaveMeta` drops that error
  if m.Key ∈ table then table else table.insert m.Key (m.type, m.Value)

def InsertOrUpdate (m : Meta) (table : MetaTable) : MetaTable :=
  table.insert m.Key (m.type, m.Value)

def DeleteMetaByKey (key : String) (table : MetaTable) : MetaTable :=
  table.erase key

inductive Column where
  | key
  | type
  deriving DecidableEq, Repr

def Column.select (col : Column) (condition : String) (row : Σ _ : String, String × String) : Bool :=
  match col with
  | .key => row.1 == condition
  | .type => row.2.1 == condition

def QueryMeta (col : Column) (condition : String) (table : MetaTable) : List String :=
  (table.entries.filter (col.select condition)).map (·.2.2)

def QueryAllMeta (col : Column) (condition : String) (table : MetaTable) : List Meta :=
  (table.entries.filter (col.select condition)).map fun row => ⟨row.1, row.2.1, row.2.2⟩

/-- The errors of the calls one step makes, `none` where a call succeeds: the
    handler's query of the table (the sync's query of every pod status), its
    write, the write of `Inject`'s `n`-th event to `meta_v2` after three tries,
    and the sync's query of a record's pod and delete of the record, by the
    record's key. -/
structure Dao where
  query : Option String
  write : Option String
  injectWrite : Nat → Option String
  podQuery : String → Option String
  podDelete : String → Option String

def Dao.ok : Dao := ⟨none, none, fun _ => none, fun _ => none, fun _ => none⟩

section Lookup
variable (key : String) (m : Meta) (table : MetaTable)

theorem lookup_SaveMeta :
    (SaveMeta m table).lookup key =
      if key = m.Key then (table.lookup key).or (some (m.type, m.Value)) else table.lookup key := by
  unfold SaveMeta
  by_cases hk : key = m.Key
  · subst hk
    by_cases hm : m.Key ∈ table
    · obtain ⟨r, hr⟩ := Option.isSome_iff_exists.mp (AList.lookup_isSome.mpr hm)
      rw [if_pos hm, if_pos rfl, hr]
      rfl
    · rw [if_neg hm, if_pos rfl, AList.lookup_insert, AList.lookup_eq_none.mpr hm]
      rfl
  · rw [if_neg hk]
    split <;> simp [AList.lookup_insert_ne hk]

theorem lookup_InsertOrUpdate :
    (InsertOrUpdate m table).lookup key =
      if key = m.Key then some (m.type, m.Value) else table.lookup key := by
  unfold InsertOrUpdate
  by_cases hk : key = m.Key
  · subst hk
    simp
  · simp [hk, AList.lookup_insert_ne hk]

theorem lookup_DeleteMetaByKey (k : String) :
    (DeleteMetaByKey k table).lookup key = if key = k then none else table.lookup key := by
  unfold DeleteMetaByKey
  by_cases hk : key = k
  · subst hk
    simp
  · simp [hk, AList.lookup_erase_ne hk]

end Lookup

theorem filter_key_eq_dlookup {β : Type} (k : String) :
    ∀ l : List (Σ _ : String, β), l.NodupKeys →
      (l.filter fun row => row.1 == k).map (·.2) = (l.dlookup k).toList
  | [], _ => rfl
  | ⟨a, b⟩ :: l, hl => by
    rw [List.nodupKeys_cons] at hl
    by_cases hak : a = k
    · subst hak
      -- no later row has the key
      have hnone : l.filter (fun row => row.1 == a) = [] := by
        rw [List.filter_eq_nil_iff]
        intro row hrow heq
        have hrow_a : row.1 = a := by simpa using heq
        have hkey := List.mem_keys_of_mem hrow
        rw [hrow_a] at hkey
        exact hl.1 hkey
      simp [hnone]
    · have hka : k ≠ a := fun e => hak e.symm
      simp [hak, List.dlookup_cons_ne l ⟨a, b⟩ hka, filter_key_eq_dlookup k l hl.2]

theorem QueryMeta_key (key : String) (table : MetaTable) :
    QueryMeta .key key table = ((table.lookup key).map (·.2)).toList := by
  have h := filter_key_eq_dlookup key table.entries table.nodupKeys
  rw [QueryMeta, show Column.select .key key = fun row => row.1 == key from rfl]
  calc ((table.entries.filter fun row => row.1 == key).map fun row => row.2.2)
      = ((table.entries.filter fun row => row.1 == key).map (·.2)).map (·.2) := by simp
    _ = ((table.entries.dlookup key).toList).map (·.2) := by rw [h]
    _ = ((table.lookup key).map (·.2)).toList := by
      rw [show table.lookup key = table.entries.dlookup key from rfl]
      cases table.entries.dlookup key <;> rfl

theorem mem_QueryMeta_type (type value : String) (table : MetaTable) :
    value ∈ QueryMeta .type type table ↔ ∃ key, table.lookup key = some (type, value) := by
  simp only [QueryMeta, List.mem_map, List.mem_filter, Column.select, beq_iff_eq]
  constructor
  · rintro ⟨⟨key, t, v⟩, ⟨hmem, rfl⟩, rfl⟩
    exact ⟨key, AList.mem_lookup_iff.mpr hmem⟩
  · rintro ⟨key, hkey⟩
    exact ⟨⟨key, type, value⟩, ⟨AList.mem_lookup_iff.mp hkey, rfl⟩, rfl⟩

theorem kerase_eq_filter {β : Type} (k : String) :
    ∀ l : List (Σ _ : String, β), l.NodupKeys → l.kerase k = l.filter fun row => row.1 != k
  | [], _ => rfl
  | ⟨a, b⟩ :: l, hl => by
    rw [List.nodupKeys_cons] at hl
    by_cases hak : a = k
    · subst hak
      rw [List.kerase_cons_eq (show a = (⟨a, b⟩ : Σ _ : String, β).1 from rfl), List.filter_cons_of_neg (by simp)]
      -- no later row has the key
      refine (List.filter_eq_self.mpr fun row hrow => ?_).symm
      have hkey := List.mem_keys_of_mem hrow
      simp only [bne_iff_ne, ne_eq]
      exact fun e => hl.1 (e ▸ hkey)
    · rw [List.kerase_cons_ne (Ne.symm hak), List.filter_cons_of_pos (by simpa using hak),
        kerase_eq_filter k l hl.2]

theorem QueryAllMeta_DeleteMetaByKey (col : Column) (condition k : String) (table : MetaTable) :
    QueryAllMeta col condition (DeleteMetaByKey k table) =
      (QueryAllMeta col condition table).filter fun m => m.Key != k := by
  have herase : (DeleteMetaByKey k table).entries = table.entries.filter fun row => row.1 != k :=
    kerase_eq_filter k table.entries table.nodupKeys
  rw [QueryAllMeta, QueryAllMeta, herase, List.filter_map, List.filter_filter, List.filter_filter]
  congr 1
  apply List.filter_congr
  intro row _
  exact Bool.and_comm _ _

theorem mem_QueryAllMeta_type (type : String) (table : MetaTable) (m : Meta) :
    m ∈ QueryAllMeta .type type table ↔ m.type = type ∧ table.lookup m.Key = some (m.type, m.Value) := by
  simp only [QueryAllMeta, List.mem_map, List.mem_filter, Column.select, beq_iff_eq]
  constructor
  · rintro ⟨⟨key, t, v⟩, ⟨hmem, rfl⟩, rfl⟩
    exact ⟨rfl, AList.mem_lookup_iff.mpr hmem⟩
  · rintro ⟨htype, hkey⟩
    exact ⟨⟨m.Key, m.type, m.Value⟩, ⟨AList.mem_lookup_iff.mp hkey, htype⟩, rfl⟩

end KubeEdge.MetaManager
