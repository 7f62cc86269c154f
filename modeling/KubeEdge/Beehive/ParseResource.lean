import KubeEdge.Go.Strings
import KubeEdge.Beehive.Message

set_option autoImplicit false

/-!
# `beehive/pkg/common/util`: parsing a message's resource

`ParseResourceEdge` reads `<namespace>/<type>/<id>`, and for a query or a
response the two-element `<namespace>/<type>`; `ParseResourceEdgeCluster` also
takes the short form for an update; `ParseResourceMaster` reads
`cluster/<cluster>/node/<node>/<namespace>/<type>[/<id>]`. Go's `&&` binds
tighter than `||`, so the length test of the short form guards only the last
operation named: a query of any length reaches the indexing. An index past the
end of the split panics: the functions return `none` there.
-/

namespace KubeEdge.Beehive

open KubeEdge.Go

def ParseResourceEdge (resource operation : String) : Option (Except String (String × String × String)) :=
  let resourceSplits := Split resource '/'
  if resourceSplits.length = 3 then
    return .ok (← resourceSplits[0]?, ← resourceSplits[1]?, ← resourceSplits[2]?)
  else if operation = QueryOperation ∨ operation = ResponseOperation ∧ resourceSplits.length = 2 then
    return .ok (← resourceSplits[0]?, ← resourceSplits[1]?, "")
  else
    return .error ("Resource: " ++ resource ++ " format incorrect, or Operation: " ++ operation ++
      " is not query/response")

def ParseResourceEdgeCluster (resource operation : String) :
    Option (Except String (String × String × String)) :=
  let resourceSplits := Split resource '/'
  if resourceSplits.length = 3 then
    return .ok (← resourceSplits[0]?, ← resourceSplits[1]?, ← resourceSplits[2]?)
  else if operation = QueryOperation ∨ operation = ResponseOperation ∨
      operation = UpdateOperation ∧ resourceSplits.length = 2 then
    return .ok (← resourceSplits[0]?, ← resourceSplits[1]?, "")
  else
    return .error ("Resource: " ++ resource ++ " format incorrect, or Operation: " ++ operation ++
      " is not query/response/update")

def ParseResourceMaster (resource operation : String) :
    Option (Except String (String × String × String × String × String)) :=
  let resourceSplits := Split resource '/'
  -- `&&` stops at the length test, so the two lookups only run on seven elements
  if resourceSplits.length = 7 ∧ resourceSplits[0]? = some "cluster" ∧ resourceSplits[2]? = some "node" then
    return .ok (← resourceSplits[1]?, ← resourceSplits[3]?, ← resourceSplits[4]?, ← resourceSplits[5]?,
      ← resourceSplits[6]?)
  else if operation = QueryOperation ∨ operation = ResponseOperation ∧ resourceSplits.length = 6 then
    return .ok (← resourceSplits[1]?, ← resourceSplits[3]?, ← resourceSplits[4]?, ← resourceSplits[5]?, "")
  else
    return .error ("Resource: " ++ resource ++ " format incorrect, or Operation: " ++ operation ++
      " is not query/response")

/-! ### Which inputs reach an index past the end

Each function panics exactly when its short form is taken for a split too short
to hold the fields it reads: for a query of any length (and, at edge clusters,
a response), not only for the two lengths the comment documents. -/

theorem ParseResourceEdge_eq_none_iff (resource operation : String) :
    ParseResourceEdge resource operation = none ↔
      operation = QueryOperation ∧ (Split resource '/').length < 2 := by
  unfold ParseResourceEdge
  generalize Split resource '/' = l
  dsimp only
  split_ifs with h3 hq
  · obtain ⟨a, b, c, rfl⟩ := List.length_eq_three.mp h3
    simp
  · have hne : QueryOperation ≠ ResponseOperation := by decide
    rcases l with _ | ⟨a, _ | ⟨b, rest⟩⟩ <;> simp_all
  · simp_all

theorem ParseResourceEdgeCluster_eq_none_iff (resource operation : String) :
    ParseResourceEdgeCluster resource operation = none ↔
      (operation = QueryOperation ∨ operation = ResponseOperation) ∧ (Split resource '/').length < 2 := by
  unfold ParseResourceEdgeCluster
  generalize Split resource '/' = l
  dsimp only
  split_ifs with h3 hq
  · obtain ⟨a, b, c, rfl⟩ := List.length_eq_three.mp h3
    simp
  · have hne : QueryOperation ≠ UpdateOperation ∧ ResponseOperation ≠ UpdateOperation := by decide
    rcases l with _ | ⟨a, _ | ⟨b, rest⟩⟩ <;> simp_all
  · simp_all

theorem ParseResourceMaster_eq_none_iff (resource operation : String) :
    ParseResourceMaster resource operation = none ↔
      operation = QueryOperation ∧ (Split resource '/').length < 6 := by
  unfold ParseResourceMaster
  generalize Split resource '/' = l
  dsimp only
  split_ifs with h7 hq
  -- the full form reads positions up to six of a seven-element split
  · obtain ⟨hl, -⟩ := h7
    rcases l with _ | ⟨a, _ | ⟨b, _ | ⟨c, _ | ⟨d, _ | ⟨e, _ | ⟨f, _ | ⟨g, rest⟩⟩⟩⟩⟩⟩⟩ <;> simp_all
  · have hne : QueryOperation ≠ ResponseOperation := by decide
    rcases l with _ | ⟨a, _ | ⟨b, _ | ⟨c, _ | ⟨d, _ | ⟨e, _ | ⟨f, rest⟩⟩⟩⟩⟩⟩ <;> simp_all
  · simp_all

theorem ParseResource_short_query_panics :
    ParseResourceEdge "pods" QueryOperation = none ∧
    ParseResourceEdgeCluster "missions" ResponseOperation = none ∧
    ParseResourceMaster "cluster/c1/node/n1" QueryOperation = none ∧
    ParseResourceEdge "default/pod/p1/extra" QueryOperation = some (.ok ("default", "pod", "")) := by
  decide

end KubeEdge.Beehive
