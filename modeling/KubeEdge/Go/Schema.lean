import KubeEdge.Go.Strings

set_option autoImplicit false

/-!
# Group, version and resource of an API object

The part of `k8s.io/apimachinery/pkg/runtime/schema` the cloud and the meta
server use: `ParseGroupVersion` reads `group/version`, or a bare version for
the core group.
-/

namespace KubeEdge.Go

structure GroupVersion where
  group : String
  version : String
  deriving DecidableEq, Repr

structure GroupVersionResource where
  group : String
  version : String
  resource : String
  deriving DecidableEq, Repr

def GroupVersion.WithResource (gv : GroupVersion) (resource : String) : GroupVersionResource :=
  ⟨gv.group, gv.version, resource⟩

/-- `schema.ParseGroupVersion`; `strings.Count(gv, "/")` is one less than the
    number of pieces `Split` gives. -/
def ParseGroupVersion (gv : String) : Except String GroupVersion :=
  if gv = "" ∨ gv = "/" then .ok ⟨"", ""⟩
  else
    match Split gv '/' with
    | [version] => .ok ⟨"", version⟩
    | [group, version] => .ok ⟨group, version⟩
    | _ => .error ("unexpected GroupVersion string: " ++ gv)

theorem ParseGroupVersion_join {group version : String} (hg : '/' ∉ group.toList)
    (hv : '/' ∉ version.toList) : ParseGroupVersion (group ++ "/" ++ version) = .ok ⟨group, version⟩ := by
  have hsplit : Split (group ++ "/" ++ version) '/' = [group, version] := by
    rw [show "/" = String.singleton '/' from rfl, Split_append_sep, Split_of_not_mem hg,
      Split_of_not_mem hv]
    rfl
  unfold ParseGroupVersion
  by_cases hsl : group ++ "/" ++ version = "/"
  · -- only `/` itself is a special case, where both parts are empty
    have h := congrArg String.toList hsl
    simp [String.toList_append, List.append_eq_cons_iff] at h
    obtain ⟨rfl, rfl⟩ := h
    rfl
  · have hne : group ++ "/" ++ version ≠ "" := fun e => by
      simpa [String.toList_append] using congrArg String.toList e
    simp only [hne, hsl, or_self, if_false, hsplit]

end KubeEdge.Go
