import KubeEdge.Go.Strings
import KubeEdge.Beehive.Message

set_option autoImplicit false

/-!
# Resource paths of cloud-to-edge messages

`messagelayer.BuildResource` writes `node/<node>/<namespace>/<type>[/<name>]`;
the edge controller's getters read it back by index, the cloud hub's queue
scans it for the node and keys its store by `<type>/<namespace>/<name>`, the
cloud hub cuts `node/<node>/` off before sending, and the edge's meta manager
splits what is left.
-/

namespace KubeEdge.Cloud

open KubeEdge.Go KubeEdge.Beehive

def ResourceNode : String := "node"
def ResourceSep : Char := '/'
def GroupResource : String := "resource"

def ResourceNodeIDIndex : Nat := 1
def ResourceNamespaceIndex : Nat := 2
def ResourceResourceTypeIndex : Nat := 3
def ResourceResourceNameIndex : Nat := 4

def BuildResource (nodeID resourceNamespace resourceType resourceID : String) : Except String String :=
  if resourceNamespace = "" ∨ resourceType = "" ∨ nodeID = "" then
    .error "required parameter are not set (node id, namespace or resource type)"
  else
    let resource := ResourceNode ++ "/" ++ nodeID ++ "/" ++ resourceNamespace ++ "/" ++ resourceType
    .ok (if resourceID ≠ "" then resource ++ "/" ++ resourceID else resource)

def getElementByIndex (msg : Message) (index : Nat) : String :=
  elementAt (Split msg.router.resource ResourceSep) index

/-- The getters of `messagelayer`: one element of the path, an error when it is empty. -/
def getElement (index : Nat) (what : String) (msg : Message) : Except String String :=
  let res := getElementByIndex msg index
  if res = "" then .error (what ++ " not found") else .ok res

def GetNodeID (msg : Message) : Except String String :=
  getElement ResourceNodeIDIndex "node id" msg

def GetNamespace (msg : Message) : Except String String :=
  getElement ResourceNamespaceIndex "namespace" msg

def GetResourceType (msg : Message) : Except String String :=
  getElement ResourceResourceTypeIndex "resource type" msg

def GetResourceName (msg : Message) : Except String String :=
  getElement ResourceResourceNameIndex "resource name" msg

def valueOf (r : Except String String) : String :=
  match r with
  | .ok v => v
  | .error _ => ""

/-- The scan of `channelq.GetNodeID`: the token after the first `node` whose
    successor is not empty. -/
def nodeIDAfter : List String → Option String
  | token :: next :: rest => if token = ResourceNode ∧ next ≠ "" then some next else nodeIDAfter (next :: rest)
  | _ => none

namespace channelq

def GetNodeID (msg : Message) : Except String String :=
  match nodeIDAfter (Split msg.router.resource ResourceSep) with
  | some nodeID => .ok nodeID
  | none => .error ("No nodeID in Message.Router.Resource: " ++ msg.router.resource)

def getMsgKey (msg : Message) : Except String String :=
  if msg.router.group = GroupResource then
    .ok (Join [valueOf (KubeEdge.Cloud.GetResourceType msg), valueOf (KubeEdge.Cloud.GetNamespace msg),
      valueOf (KubeEdge.Cloud.GetResourceName msg)] '/')
  else .error "Failed to get message key"

end channelq

/-- `trimMessage`: a resource under `node/` loses its first two elements. -/
def trimMessage (msg : Message) : Message :=
  if HasPrefix msg.router.resource ResourceNode then
    let tokens := Split msg.router.resource '/'
    if tokens.length < 3 then msg
    else { msg with router := { msg.router with resource := Join (tokens.drop 2) '/' } }
  else msg

/-- The edge's `parseResource`: `<namespace>/<type>[/<id>]` gives the resource
    key, its type and its ID. -/
def parseResource (resource : String) : String × String × String :=
  let tokens := Split resource ResourceSep
  match tokens.length with
  | 2 => (resource, tokens.getD (tokens.length - 1) "", "")
  | 3 => (resource, tokens.getD (tokens.length - 2) "", tokens.getD (tokens.length - 1) "")
  | _ => (resource, "", "")

def resourceTokens (nodeID resourceNamespace resourceType resourceID : String) : List String :=
  [ResourceNode, nodeID, resourceNamespace, resourceType] ++ (if resourceID = "" then [] else [resourceID])

theorem BuildResource_eq_join {nodeID resourceNamespace resourceType resourceID : String}
    (hnode : nodeID ≠ "") (hns : resourceNamespace ≠ "") (htype : resourceType ≠ "") :
    BuildResource nodeID resourceNamespace resourceType resourceID =
      .ok (Join (resourceTokens nodeID resourceNamespace resourceType resourceID) '/') := by
  have hcond : ¬(resourceNamespace = "" ∨ resourceType = "" ∨ nodeID = "") := by
    rintro (h | h | h) <;> contradiction
  rw [BuildResource, if_neg hcond]
  dsimp only
  congr 1
  apply String.toList_inj.mp
  by_cases hid : resourceID = ""
  · simp [hid, resourceTokens, Join, ResourceNode, List.intercalate_cons_cons]
  · simp [hid, resourceTokens, Join, ResourceNode, List.intercalate_cons_cons]

def trimmedTokens (resourceNamespace resourceType resourceID : String) : List String :=
  [resourceNamespace, resourceType] ++ (if resourceID = "" then [] else [resourceID])

section Decode

variable {nodeID resourceNamespace resourceType resourceID : String}

theorem resourceTokens_eq :
    resourceTokens nodeID resourceNamespace resourceType resourceID =
      ResourceNode :: nodeID :: trimmedTokens resourceNamespace resourceType resourceID := rfl

theorem Split_Join_tokens {tokens : List String} (hsep : ∀ s ∈ tokens, '/' ∉ s.toList) (hne : tokens ≠ []) :
    Split (Join tokens '/') ResourceSep = tokens :=
  Split_Join hsep hne

theorem trimmedTokens_sep (hsep : ∀ s ∈ [nodeID, resourceNamespace, resourceType, resourceID], '/' ∉ s.toList) :
    ∀ s ∈ trimmedTokens resourceNamespace resourceType resourceID, '/' ∉ s.toList := by
  intro s hs
  apply hsep
  unfold trimmedTokens at hs
  split at hs <;> simp only [List.mem_append, List.mem_cons, List.not_mem_nil] at hs ⊢ <;> tauto

theorem resourceTokens_sep (hsep : ∀ s ∈ [nodeID, resourceNamespace, resourceType, resourceID], '/' ∉ s.toList) :
    ∀ s ∈ resourceTokens nodeID resourceNamespace resourceType resourceID, '/' ∉ s.toList := by
  rw [resourceTokens_eq]
  intro s hs
  rcases List.mem_cons.mp hs with rfl | hs
  · decide
  rcases List.mem_cons.mp hs with rfl | hs
  · exact hsep _ (by simp)
  · exact trimmedTokens_sep hsep s hs

theorem getElement_of_split {msg : Message} {tokens : List String}
    (h : Split msg.router.resource ResourceSep = tokens) (index : Nat) (what : String) (hne : tokens.getD index "" ≠ "") :
    getElement index what msg = .ok (tokens.getD index "") := by
  rw [getElement, getElementByIndex, h, elementAt, if_neg hne]

theorem GetResourceName_of_split {msg : Message}
    (htokens : Split msg.router.resource ResourceSep =
      resourceTokens nodeID resourceNamespace resourceType resourceID) :
    GetResourceName msg = if resourceID = "" then .error "resource name not found" else .ok resourceID := by
  by_cases hid : resourceID = ""
  · simp [GetResourceName, getElement, getElementByIndex, htokens, elementAt, resourceTokens, hid,
      ResourceResourceNameIndex]
  · rw [GetResourceName, getElement_of_split htokens _ _ (by simp [resourceTokens, hid, ResourceResourceNameIndex])]
    simp [resourceTokens, hid, ResourceResourceNameIndex]

theorem trimMessage_of_split {msg : Message}
    (htokens : Split msg.router.resource ResourceSep =
      resourceTokens nodeID resourceNamespace resourceType resourceID) :
    (trimMessage msg).router.resource = Join (trimmedTokens resourceNamespace resourceType resourceID) '/' := by
  have hprefix : HasPrefix msg.router.resource ResourceNode = true := by
    rw [← Join_Split msg.router.resource ResourceSep, htokens, resourceTokens_eq]
    exact HasPrefix_Join_cons _ _ _
  have hlen : ¬(Split msg.router.resource '/').length < 3 := by
    change ¬(Split msg.router.resource ResourceSep).length < 3
    rw [htokens, resourceTokens_eq]
    simp [trimmedTokens]
  rw [trimMessage, if_pos hprefix]
  dsimp only
  rw [if_neg hlen]
  change Join ((Split msg.router.resource ResourceSep).drop 2) '/' = _
  rw [htokens, resourceTokens_eq]
  rfl

theorem BuildResource_decoded
    (hnode : nodeID ≠ "") (hns : resourceNamespace ≠ "") (htype : resourceType ≠ "")
    (hsep : ∀ s ∈ [nodeID, resourceNamespace, resourceType, resourceID], '/' ∉ s.toList) :
    ∃ r, BuildResource nodeID resourceNamespace resourceType resourceID = .ok r ∧
      ∀ msg : Message, msg.router.resource = r →
        GetNodeID msg = .ok nodeID ∧ GetNamespace msg = .ok resourceNamespace ∧
        GetResourceType msg = .ok resourceType ∧
        (GetResourceName msg).toOption = (if resourceID = "" then none else some resourceID) ∧
        channelq.GetNodeID msg = .ok nodeID ∧
        (msg.router.group = GroupResource →
          channelq.getMsgKey msg = .ok (Join [resourceType, resourceNamespace, resourceID] '/')) ∧
        parseResource (trimMessage msg).router.resource =
          (Join (trimmedTokens resourceNamespace resourceType resourceID) '/', resourceType, resourceID) := by
  refine ⟨_, BuildResource_eq_join hnode hns htype, fun msg hmsg => ?_⟩
  have htokens : Split msg.router.resource ResourceSep = resourceTokens nodeID resourceNamespace resourceType resourceID := by
    rw [hmsg]
    exact Split_Join_tokens (resourceTokens_sep hsep) (by simp [resourceTokens])
  have hnodeID : GetNodeID msg = .ok nodeID := getElement_of_split htokens _ _ hnode
  have hnamespace : GetNamespace msg = .ok resourceNamespace := getElement_of_split htokens _ _ hns
  have htype' : GetResourceType msg = .ok resourceType := getElement_of_split htokens _ _ htype
  have hname := GetResourceName_of_split htokens
  -- `getMsgKey` reads the name's value, empty next to the error
  have hvalue : valueOf (GetResourceName msg) = resourceID := by
    rw [hname]
    split <;> simp_all [valueOf]
  refine ⟨hnodeID, hnamespace, htype', ?_, ?_, ?_, ?_⟩
  · rw [hname]
    split <;> rfl
  · rw [channelq.GetNodeID, htokens, resourceTokens_eq]
    simp [nodeIDAfter, hnode]
  · intro hgroup
    rw [channelq.getMsgKey, if_pos hgroup, htype', hnamespace, hvalue]
    rfl
  · rw [trimMessage_of_split htokens, parseResource,
      Split_Join_tokens (trimmedTokens_sep hsep) (by simp [trimmedTokens])]
    by_cases hid : resourceID = "" <;> simp [trimmedTokens, hid]

end Decode

theorem BuildResource_decoded_pod :
    ∃ r, BuildResource "n1" "default" "pod" "p1" = .ok r ∧
      ∀ msg : Message, msg.router.resource = r →
        GetNodeID msg = .ok "n1" ∧ GetNamespace msg = .ok "default" ∧ GetResourceType msg = .ok "pod" ∧
        (GetResourceName msg).toOption = (if "p1" = "" then none else some "p1") ∧
        channelq.GetNodeID msg = .ok "n1" ∧
        (msg.router.group = GroupResource → channelq.getMsgKey msg = .ok (Join ["pod", "default", "p1"] '/')) ∧
        parseResource (trimMessage msg).router.resource =
          (Join (trimmedTokens "default" "pod" "p1") '/', "pod", "p1") :=
  BuildResource_decoded (by decide) (by decide) (by decide) (by decide)

end KubeEdge.Cloud
