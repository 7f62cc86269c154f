import Mathlib.Data.List.DropRight
import KubeEdge.Go.Schema
import KubeEdge.MetaServer.Watch

set_option autoImplicit false

/-!
# Storage keys of the meta server

Objects and requests are stored under `/<group>/<version>/<resource>/<namespace>/<name>`,
the core group written `core` and an empty namespace or name written `null`.
`ParseKey` reads a key back, clamping every index past the end of the key to 0.
`strings.ToLower` is taken on ASCII letters.
-/

namespace KubeEdge.MetaServer

open KubeEdge.Go

def GroupCore : String := "core"

def ToLower (s : String) : String :=
  String.ofList (s.toList.map Char.toLower)

def UnsafeKindToResource (k : String) : String :=
  if k = "" then k
  else if k = "Endpoints" then "endpoints"
  else
    let r := ToLower k
    match r.toList.getLast? with
    | some 's' => r ++ "es"
    | some 'y' => String.ofList r.toList.dropLast ++ "ies"
    | _ => r ++ "s"

structure GroupVersionKind where
  group : String
  version : String
  kind : String
  deriving DecidableEq, Repr

/-- What `KeyFuncObj` reads of an object: its kind and its metadata accessor. -/
structure KeyObject where
  gvk : GroupVersionKind
  objectNamespace : String
  objectName : String
  deriving DecidableEq, Repr

def KeyFuncObj (obj : KeyObject) : Except String String :=
  if obj.gvk = ⟨"", "", ""⟩ then .error "could not get group/version/kind information in obj"
  else
    let group := if obj.gvk.group = "" then GroupCore else obj.gvk.group
    let resource := UnsafeKindToResource obj.gvk.kind
    let ns := if obj.objectNamespace = "" then NullNamespace else obj.objectNamespace
    .ok ("/" ++ group ++ "/" ++ obj.gvk.version ++ "/" ++ resource ++ "/" ++ ns ++ "/" ++ obj.objectName)

structure RequestInfo where
  isResourceRequest : Bool
  apiPrefix : String
  apiGroup : String
  apiVersion : String
  resource : String
  requestNamespace : String
  name : String
  deriving DecidableEq, Repr

def KeyFuncReq (info : Option RequestInfo) : Except String String :=
  match info with
  | none => .error "no request info in context"
  | some info =>
    if !info.isResourceRequest then .error "no request info in context"
    else
      let group : Except String String :=
        if info.apiPrefix = "api" then .ok GroupCore
        else if info.apiPrefix = "apis" then
          if info.apiGroup = "" then .error "failed to get key from request info" else .ok info.apiGroup
        else .error "failed to get key from request info"
      match group with
      | .error e => .error e
      | .ok group =>
        let ns := if info.requestNamespace = "" then NullNamespace else info.requestNamespace
        let name := if info.name = "" then NullName else info.name
        .ok ("/" ++ group ++ "/" ++ info.apiVersion ++ "/" ++ info.resource ++ "/" ++ ns ++ "/" ++ name)

/-- `IndexCheck` on one index: past the end it becomes 0. -/
def IndexCheck (length index : Nat) : Nat :=
  if index ≥ length then 0 else index

/-- The loop `for strings.HasSuffix(sl, "/") { sl = strings.TrimSuffix(sl, "/") }`. -/
def trimTrailingSlashes (key : String) : String :=
  String.ofList (key.toList.rdropWhile (· == '/'))

/-- `ParseKey`: the zero values where the source returns early; `none` where an
    index is out of range. -/
def ParseKey (key : String) : Option (GroupVersionResource × String × String) := do
  let sl := trimTrailingSlashes key
  if sl = "" then return (⟨"", "", ""⟩, "", "")
  let slices := Split sl '/'
  let length := slices.length
  if slices.head? ≠ some "" then return (⟨"", "", ""⟩, "", "")
  let group ← slices[IndexCheck length 1]?
  let group := if group = GroupCore then "" else group
  let version ← slices[IndexCheck length 2]?
  match ParseGroupVersion (group ++ "/" ++ version) with
  | .error _ => return (⟨"", "", ""⟩, "", "")
  | .ok gv =>
    let resource ← slices[IndexCheck length 3]?
    let ns ← slices[IndexCheck length 4]?
    let ns := if ns = NullNamespace then "" else ns
    let name ← slices[IndexCheck length 5]?
    let name := if name = NullName then "" else name
    return (gv.WithResource resource, ns, name)

theorem toLower_ne_slash {c : Char} (h : c ≠ '/') : c.toLower ≠ '/' := by
  unfold Char.toLower
  split
  · -- an upper-case letter moves to the lower-case range, past `/`
    rename_i hA
    intro e
    have hv := congrArg (fun d : Char => d.val.toNat) e
    obtain ⟨h1, h2⟩ := hA
    simp [UInt32.le_iff_toNat_le, UInt32.toNat_add] at hv h1 h2
    omega
  · exact h

theorem ToLower_no_slash {s : String} (h : '/' ∉ s.toList) : '/' ∉ (ToLower s).toList := by
  simp only [ToLower, String.toList_ofList, List.mem_map, not_exists, not_and]
  intro c hc e
  exact toLower_ne_slash (fun e' => h (e' ▸ hc)) e

theorem UnsafeKindToResource_no_slash {k : String} (h : '/' ∉ k.toList) :
    '/' ∉ (UnsafeKindToResource k).toList := by
  have hr := ToLower_no_slash h
  unfold UnsafeKindToResource
  split_ifs
  · exact h
  · decide
  · dsimp only
    split
    · simpa [String.toList_append] using hr
    · simp only [String.toList_append, String.toList_ofList, List.mem_append, not_or]
      exact ⟨fun e => hr (List.dropLast_subset _ e), by decide⟩
    · simpa [String.toList_append] using hr

section Parse

variable {g v r ns n : String}

theorem key_eq_join :
    "/" ++ g ++ "/" ++ v ++ "/" ++ r ++ "/" ++ ns ++ "/" ++ n = Join ["", g, v, r, ns, n] '/' := by
  apply String.toList_inj.mp
  simp [Join, List.intercalate_cons_cons, String.toList_append]

theorem key_toList_split :
    (Join ["", g, v, r, ns, n] '/').toList = (Join ["", g, v, r, ns] '/').toList ++ '/' :: n.toList := by
  simp [Join, List.intercalate_cons_cons]

theorem rdropWhile_slash_of_getLast {l : List Char} (hne : l ≠ []) (h : l.getLast hne ≠ '/') :
    l.rdropWhile (· == '/') = l :=
  List.rdropWhile_eq_self_iff.mpr fun _ => by simpa using h

theorem prefix_getLast (hns : ns ≠ "") (hslash : '/' ∉ ns.toList) :
    ∃ (hne : (Join ["", g, v, r, ns] '/').toList ≠ []),
      (Join ["", g, v, r, ns] '/').toList.getLast hne ≠ '/' := by
  have hnsl : ns.toList ≠ [] := by simpa using hns
  have heq : (Join ["", g, v, r, ns] '/').toList =
      ('/' :: (g.toList ++ '/' :: (v.toList ++ '/' :: (r.toList ++ ['/'])))) ++ ns.toList := by
    simp [Join, List.intercalate_cons_cons]
  have hne : (Join ["", g, v, r, ns] '/').toList ≠ [] := by simp [heq]
  refine ⟨hne, ?_⟩
  simp only [heq]
  rw [List.getLast_append_of_ne_nil _ hnsl]
  exact fun e => hslash (e ▸ List.getLast_mem hnsl)

theorem trimTrailingSlashes_key (hns : ns ≠ "") (hnsl : '/' ∉ ns.toList) (hn : '/' ∉ n.toList) :
    trimTrailingSlashes (Join ["", g, v, r, ns, n] '/') =
      if n = "" then Join ["", g, v, r, ns] '/' else Join ["", g, v, r, ns, n] '/' := by
  obtain ⟨hne, hlast⟩ := prefix_getLast (g := g) (v := v) (r := r) hns hnsl
  unfold trimTrailingSlashes
  rw [key_toList_split]
  split
  · -- the empty name: one slash goes, then the namespace ends the key
    rename_i h
    subst h
    rw [String.toList_empty, List.rdropWhile_concat_pos _ _ _ (by decide),
      rdropWhile_slash_of_getLast hne hlast, String.ofList_toList]
  · -- a non-empty name ends the key
    rename_i h
    have hnl : n.toList ≠ [] := by simpa using h
    have hsplit : (Join ["", g, v, r, ns] '/').toList ++ '/' :: n.toList =
        ((Join ["", g, v, r, ns] '/').toList ++ ['/']) ++ n.toList := by simp
    have hne' : ((Join ["", g, v, r, ns] '/').toList ++ ['/']) ++ n.toList ≠ [] := by simp
    have hlast' : (((Join ["", g, v, r, ns] '/').toList ++ ['/']) ++ n.toList).getLast hne' ≠ '/' := by
      rw [List.getLast_append_of_ne_nil _ hnl]
      exact fun e => hn (e ▸ List.getLast_mem hnl)
    rw [hsplit, rdropWhile_slash_of_getLast hne' hlast', ← hsplit, ← key_toList_split, String.ofList_toList]

theorem Join_key_ne_empty (piece : String) (pieces : List String) : Join ("" :: piece :: pieces) '/' ≠ "" := by
  intro e
  have := congrArg String.toList e
  simp [Join, List.intercalate_cons_cons] at this

theorem ParseKey_join (hg : '/' ∉ g.toList) (hv : '/' ∉ v.toList) (hr : '/' ∉ r.toList) (hns : ns ≠ "")
    (hnsl : '/' ∉ ns.toList) (hn : '/' ∉ n.toList) :
    ParseKey (Join ["", g, v, r, ns, n] '/') =
      some (⟨if g = GroupCore then "" else g, v, r⟩, if ns = NullNamespace then "" else ns,
        if n = NullName then "" else n) := by
  have hg' : '/' ∉ (if g = GroupCore then "" else g).toList := by
    split
    · simp
    · exact hg
  have hgv := ParseGroupVersion_join hg' hv
  rw [ParseKey, trimTrailingSlashes_key hns hnsl hn]
  by_cases hn0 : n = ""
  · -- the trimmed key has five pieces: the name index falls back to the empty first one
    subst hn0
    have hsplit : Split (Join ["", g, v, r, ns] '/') '/' = ["", g, v, r, ns] :=
      Split_Join (by simp_all) (by simp)
    simp [hsplit, Join_key_ne_empty, IndexCheck, hgv, NullName, GroupVersion.WithResource]
  · have hsplit : Split (Join ["", g, v, r, ns, n] '/') '/' = ["", g, v, r, ns, n] :=
      Split_Join (by simp_all) (by simp)
    simp [hn0, hsplit, Join_key_ne_empty, IndexCheck, hgv, GroupVersion.WithResource]

example : ParseKey "/core/v1/pods/null/" = some (⟨"", "v1", "pods"⟩, "", "") := by decide

end Parse

theorem IndexCheck_lt {length : Nat} (h : 0 < length) (index : Nat) : IndexCheck length index < length := by
  unfold IndexCheck
  split <;> omega

theorem ParseKey_isSome (key : String) : (ParseKey key).isSome := by
  -- `Split` never returns an empty list, so every clamped index is in range
  have hlen : 0 < (Split (trimTrailingSlashes key) '/').length :=
    List.length_pos_of_ne_nil (by simp [Split, List.splitOn_ne_nil])
  have hget (i : Nat) := List.getElem?_eq_getElem (IndexCheck_lt hlen i)
  unfold ParseKey
  dsimp only
  split
  · rfl
  · split
    · rfl
    · simp only [hget, Option.bind_eq_bind, Option.bind_some]
      split <;> rfl

theorem placeholder_roundtrip {s null : String} (h : s ≠ null) :
    (if (if s = "" then null else s) = null then "" else if s = "" then null else s) = s := by
  by_cases hs : s = ""
  · simp [hs]
  · simp [hs, h]

theorem placeholder_no_slash {s null : String} (hs : '/' ∉ s.toList) (hnull : '/' ∉ null.toList) :
    '/' ∉ (if s = "" then null else s).toList := by
  split
  · exact hnull
  · exact hs

theorem placeholder_ne_empty {s null : String} (h0 : null ≠ "") : (if s = "" then null else s) ≠ "" := by
  split
  · exact h0
  · assumption

theorem ParseKey_KeyFuncObj {obj : KeyObject} (hg : '/' ∉ obj.gvk.group.toList)
    (hv : '/' ∉ obj.gvk.version.toList) (hk : '/' ∉ obj.gvk.kind.toList)
    (hns : '/' ∉ obj.objectNamespace.toList) (hn : '/' ∉ obj.objectName.toList) (hv0 : obj.gvk.version ≠ "")
    (hcore : obj.gvk.group ≠ GroupCore) (hnull : obj.objectNamespace ≠ NullNamespace)
    (hnulln : obj.objectName ≠ NullName) :
    ∃ key, KeyFuncObj obj = .ok key ∧
      ParseKey key = some (⟨obj.gvk.group, obj.gvk.version, UnsafeKindToResource obj.gvk.kind⟩,
        obj.objectNamespace, obj.objectName) := by
  have hgvk : obj.gvk ≠ ⟨"", "", ""⟩ := fun e => hv0 (by rw [e])
  have hgroup : '/' ∉ (if obj.gvk.group = "" then GroupCore else obj.gvk.group).toList :=
    placeholder_no_slash hg (by decide)
  have hobj : KeyFuncObj obj = .ok (Join ["", if obj.gvk.group = "" then GroupCore else obj.gvk.group,
      obj.gvk.version, UnsafeKindToResource obj.gvk.kind,
      if obj.objectNamespace = "" then NullNamespace else obj.objectNamespace, obj.objectName] '/') := by
    rw [KeyFuncObj, if_neg hgvk, ← key_eq_join]
  refine ⟨_, hobj, ?_⟩
  rw [ParseKey_join hgroup hv (UnsafeKindToResource_no_slash hk) (placeholder_ne_empty (by decide))
    (placeholder_no_slash hns (by decide)) hn]
  -- `core` comes back as the empty group it stood for
  have hgroup' : (if (if obj.gvk.group = "" then GroupCore else obj.gvk.group) = GroupCore then ""
      else if obj.gvk.group = "" then GroupCore else obj.gvk.group) = obj.gvk.group := by
    by_cases h0 : obj.gvk.group = "" <;> simp [h0, hcore]
  rw [hgroup', placeholder_roundtrip hnull, if_neg hnulln]

theorem KeyFuncReq_eq_join {info : RequestInfo} {key : String} (hkey : KeyFuncReq (some info) = .ok key) :
    ∃ group, (info.apiPrefix = "api" ∧ group = GroupCore ∨ info.apiPrefix ≠ "api" ∧ group = info.apiGroup) ∧
      key = Join ["", group, info.apiVersion, info.resource,
        if info.requestNamespace = "" then NullNamespace else info.requestNamespace,
        if info.name = "" then NullName else info.name] '/' := by
  unfold KeyFuncReq at hkey
  dsimp only at hkey
  by_cases hres : info.isResourceRequest = false
  · simp [hres] at hkey
  by_cases hapi : info.apiPrefix = "api"
  · simp [hres, hapi] at hkey
    exact ⟨GroupCore, .inl ⟨hapi, rfl⟩, by rw [← hkey, key_eq_join]⟩
  by_cases hapis : info.apiPrefix = "apis"
  · by_cases hempty : info.apiGroup = ""
    · simp [hres, hapis, hempty] at hkey
    · simp [hres, hapis, hempty] at hkey
      exact ⟨info.apiGroup, .inr ⟨hapi, rfl⟩, by rw [← hkey, key_eq_join]⟩
  · simp [hres, hapi, hapis] at hkey

/-- The API group a request addresses: the core group, `""`, under the legacy
    prefix `api`. -/
def requestGroup (info : RequestInfo) : String :=
  if info.apiPrefix = "api" then "" else info.apiGroup

theorem ParseKey_KeyFuncReq {info : RequestInfo} {key : String} (hg : '/' ∉ (requestGroup info).toList)
    (hv : '/' ∉ info.apiVersion.toList) (hr : '/' ∉ info.resource.toList)
    (hns : '/' ∉ info.requestNamespace.toList) (hn : '/' ∉ info.name.toList)
    (hcore : requestGroup info ≠ GroupCore) (hnull : info.requestNamespace ≠ NullNamespace)
    (hnulln : info.name ≠ NullName) (hkey : KeyFuncReq (some info) = .ok key) :
    ParseKey key = some (⟨requestGroup info, info.apiVersion, info.resource⟩, info.requestNamespace, info.name) := by
  obtain ⟨group, hgroup, rfl⟩ := KeyFuncReq_eq_join hkey
  -- the group written is read back as the request's: `core` stands for the empty one
  have hslash : '/' ∉ group.toList := by
    rcases hgroup with ⟨-, rfl⟩ | ⟨hp, rfl⟩
    · decide
    · simpa [requestGroup, hp] using hg
  have hback : (if group = GroupCore then "" else group) = requestGroup info := by
    rcases hgroup with ⟨hp, rfl⟩ | ⟨hp, rfl⟩
    · simp [requestGroup, hp]
    · simp only [requestGroup, hp, if_false] at hcore ⊢
      simp [hcore]
  rw [ParseKey_join hslash hv hr (placeholder_ne_empty (by decide)) (placeholder_no_slash hns (by decide))
    (placeholder_no_slash hn (by decide)), hback, placeholder_roundtrip hnull, placeholder_roundtrip hnulln]

/-- Keys of objects and of requests are read back, and `ParseKey` is total. -/
theorem ParseKey_inverts_keys :
    (∀ obj : KeyObject, '/' ∉ obj.gvk.group.toList → '/' ∉ obj.gvk.version.toList →
      '/' ∉ obj.gvk.kind.toList → '/' ∉ obj.objectNamespace.toList → '/' ∉ obj.objectName.toList →
      obj.gvk.version ≠ "" → obj.gvk.group ≠ GroupCore → obj.objectNamespace ≠ NullNamespace →
      obj.objectName ≠ NullName →
      ∃ key, KeyFuncObj obj = .ok key ∧
        ParseKey key = some (⟨obj.gvk.group, obj.gvk.version, UnsafeKindToResource obj.gvk.kind⟩,
          obj.objectNamespace, obj.objectName)) ∧
    (∀ (info : RequestInfo) (key : String), '/' ∉ (requestGroup info).toList →
      '/' ∉ info.apiVersion.toList → '/' ∉ info.resource.toList → '/' ∉ info.requestNamespace.toList →
      '/' ∉ info.name.toList → requestGroup info ≠ GroupCore → info.requestNamespace ≠ NullNamespace →
      info.name ≠ NullName → KeyFuncReq (some info) = .ok key →
      ParseKey key = some (⟨requestGroup info, info.apiVersion, info.resource⟩, info.requestNamespace, info.name)) ∧
    ∀ key, (ParseKey key).isSome :=
  ⟨fun _ => ParseKey_KeyFuncObj, fun _ _ => ParseKey_KeyFuncReq, ParseKey_isSome⟩

end KubeEdge.MetaServer
