import KubeEdge.Go.Strings
import KubeEdge.Lib.Regex
import KubeEdge.Lib.FoldM

set_option autoImplicit false

/-!
# The router's rule paths

A REST rule's path becomes a regular expression: each `{param}` turns into
`pathRegex`, and `/?` is appended. `IsMatch` searches the request URI for it
with `regexp.MatchString`, unanchored, and `RuleContains` compares two rules
segment by segment on their common length only. `RestHandler.matchedPath`
ranges over the registered rules in the order `sync.Map.Range` gives, and keeps
the first matching rule that a later one "contains".

`IsMatch` is `none` where the rule's expression is outside the syntax
`Regex.compile` reads (a rule holding a character Go's syntax gives a meaning).
The handlers are the rule paths in range order.
-/

namespace KubeEdge.Router

open KubeEdge.Go KubeEdge.Lib

def pathRegex : String := "[-A-Za-z0-9+&@#%?=~_|!:,.;]+"

def tailRegex : String := "/?"

def pathClass : List (Char × Char) :=
  [('-', '-'), ('A', 'Z'), ('a', 'z'), ('0', '9'), ('+', '+'), ('&', '&'), ('@', '@'), ('#', '#'),
    ('%', '%'), ('?', '?'), ('=', '='), ('~', '~'), ('_', '_'), ('|', '|'), ('!', '!'), (':', ':'),
    (',', ','), ('.', '.'), (';', ';')]

example : Regex.compile pathRegex.toList = some [.plus pathClass] := by decide

/-- `paramRegex.FindAllString(url, -1)`: each `{…}` around one or more
    characters of `pathClass`, leftmost first and without overlap. `pending`
    holds the characters read since an unclosed `{`, last first. -/
def findParams (pending : Option (List Char)) : List Char → List String
  | [] => []
  | c :: s =>
    match pending with
    | none => if c = '{' then findParams (some []) s else findParams none s
    | some run =>
      if Regex.inClass pathClass c then findParams (some (c :: run)) s
      else if c = '}' ∧ run ≠ [] then String.ofList ('{' :: run.reverse ++ ['}']) :: findParams none s
      -- a failed match: the search goes on from here, where a new `{` may start one
      else if c = '{' then findParams (some []) s
      else findParams none s

/-- `strings.Replace(s, old, new, -1)`: each occurrence of `old`, leftmost first
    and without overlap, replaced by `new`; an empty `old` matches at the start
    and after each character. -/
def Replace (s old new : String) : String :=
  if old = "" then String.ofList (new.toList ++ s.toList.flatMap (· :: new.toList))
  else String.ofList (go 0 s.toList)
where
  go : Nat → List Char → List Char
    | _, [] => []
    | skip + 1, _ :: cs => go skip cs
    | 0, c :: cs =>
      if old.toList.isPrefixOf (c :: cs) then new.toList ++ go (old.length - 1) cs else c :: go 0 cs

def URLToURLRegex (url : String) : String :=
  let params := findParams none url.toList
  let url := params.foldl (fun url param => Replace url param pathRegex) url
  url ++ tailRegex

example : URLToURLRegex "/aaa/{ddddd}/{sssss}/ddd" = "/aaa/" ++ pathRegex ++ "/" ++ pathRegex ++ "/ddd" ++ tailRegex := by
  decide

def IsMatch (reg path : String) : Option Bool :=
  (Regex.compile (URLToURLRegex reg).toList).map fun items => Regex.search items path.toList

example : IsMatch "/a/{sdsd}/{dddd}" "/fakenodeid/a/b/c" = some true ∧ IsMatch "/a/b/d" "/fakenodeid/a/b/c" = some false := by
  decide

/-- `RuleContains(rulePath, rule2Path)`: the segments the two have in common
    agree, as text or as expressions. -/
def RuleContains (rulePath rule2Path : String) : Bool :=
  let path1 := Split rulePath '/'
  let path2 := Split rule2Path '/'
  if path1.length = 0 then true
  else if path2.length = 0 then false
  else (path1.zip path2).all fun (p1, p2) => p1 == p2 || URLToURLRegex p1 == URLToURLRegex p2

def matchStep (uri : String) (candidateRes pathReg : String) : Option String := do
  let m ← IsMatch pathReg uri
  if m then
    if candidateRes != "" && RuleContains pathReg candidateRes then return candidateRes
    return pathReg
  return candidateRes

def matchedPath (handlers : List String) (uri : String) : Option (String × Bool) := do
  let candidateRes ← handlers.foldlM (matchStep uri) ""
  if candidateRes = "" then return ("", false)
  return (candidateRes, true)

theorem findParams_of_not_mem {l : List Char} (h : '{' ∉ l) : findParams none l = [] := by
  induction l with
  | nil => rfl
  | cons c l ih =>
    have hc : c ≠ '{' := fun e => h (e ▸ List.mem_cons_self)
    rw [findParams, if_neg hc]
    exact ih fun hl => h (List.mem_cons_of_mem c hl)

theorem URLToURLRegex_of_not_mem {url : String} (h : '{' ∉ url.toList) : URLToURLRegex url = url ++ tailRegex := by
  simp only [URLToURLRegex, findParams_of_not_mem h, List.foldl_nil]

/-- A rule of characters with no meaning in Go's syntax matches exactly the URIs
    it occurs in, anywhere: the search is not anchored, and the appended `/?`
    can match nothing. -/
theorem IsMatch_plain {r : String} (hr : ∀ c ∈ r.toList, Regex.isMeta c = false) (uri : String) :
    ∃ b, IsMatch r uri = some b ∧ (b = true ↔ r.toList <:+: uri.toList) := by
  have hbrace : '{' ∉ r.toList := fun h => absurd (hr '{' h) (by decide)
  have hcompile : Regex.compile (URLToURLRegex r).toList = some (r.toList.map Regex.Item.lit ++ [.opt '/']) := by
    rw [URLToURLRegex_of_not_mem hbrace, String.toList_append, Regex.compile,
      Regex.compileAux_lits _ _ hr (by decide)]
    rfl
  exact ⟨_, by rw [IsMatch, hcompile]; rfl, Regex.search_lits_opt_iff _ _ _⟩

theorem IsMatch_plain_apple :
    (∀ c ∈ "/a".toList, Regex.isMeta c = false) ∧
      ∃ b, IsMatch "/a" "/x/apple" = some b ∧ (b = true ↔ "/a".toList <:+: "/x/apple".toList) :=
  have hr : ∀ c ∈ "/a".toList, Regex.isMeta c = false := fun c hc => by
    simpa using List.all_eq_true.mp (show "/a".toList.all (fun c => !Regex.isMeta c) = true from rfl) c hc
  ⟨hr, IsMatch_plain hr "/x/apple"⟩

theorem all_zip_append {l t : List String} (f : String × String → Bool) (hf : ∀ x, f (x, x) = true) :
    (l.zip (l ++ t)).all f = true ∧ ((l ++ t).zip l).all f = true := by
  induction l with
  | nil => simp
  | cons a l ih => simp [hf, ih]

theorem RuleContains_of_prefix {r₁ r₂ : String} (h : Split r₁ '/' <+: Split r₂ '/') :
    RuleContains r₁ r₂ = true ∧ RuleContains r₂ r₁ = true := by
  obtain ⟨t, ht⟩ := h
  have hsame := all_zip_append (l := Split r₁ '/') (t := t)
    (fun p => p.1 == p.2 || URLToURLRegex p.1 == URLToURLRegex p.2) (by simp)
  have h₁ : (Split r₁ '/').length ≠ 0 := by simpa using Split_ne_nil r₁ '/'
  have h₂ : (Split r₁ '/' ++ t).length ≠ 0 := by
    rw [ht]
    simpa using Split_ne_nil r₂ '/'
  simp only [RuleContains, ← ht, if_neg h₁, if_neg h₂]
  exact hsame

theorem matchStep_of_false {uri c r : String} (h : IsMatch r uri = some false) : matchStep uri c r = some c := by
  simp [matchStep, h]

theorem matchStep_of_true {uri c r : String} (h : IsMatch r uri = some true) :
    matchStep uri c r = some (if (c != "" && RuleContains r c) = true then c else r) := by
  simp only [matchStep, h, Option.bind_eq_bind, Option.bind_some, if_true]
  split <;> rfl

theorem matchedPath_of_foldlM {handlers : List String} {uri c : String}
    (h : handlers.foldlM (matchStep uri) "" = some c) :
    matchedPath handlers uri = some (if c = "" then ("", false) else (c, true)) := by
  simp only [matchedPath, h, Option.bind_eq_bind, Option.bind_some]
  split <;> rfl

/-- Of two matching rules where the segments of one begin the other's, each
    contains the other, so `matchedPath` keeps whichever the range visits
    first: the rule it returns depends on the order of `sync.Map.Range`. -/
theorem matchedPath_order_dependent {r₁ r₂ uri : String} (h₁ : IsMatch r₁ uri = some true)
    (h₂ : IsMatch r₂ uri = some true) (hne₁ : r₁ ≠ "") (hne₂ : r₂ ≠ "") (hpre : Split r₁ '/' <+: Split r₂ '/') :
    matchedPath [r₁, r₂] uri = some (r₁, true) ∧ matchedPath [r₂, r₁] uri = some (r₂, true) := by
  obtain ⟨h₁₂, h₂₁⟩ := RuleContains_of_prefix hpre
  -- the first rule visited is taken, and the second is contained in it
  have hfirst : ∀ {a b : String}, IsMatch a uri = some true → IsMatch b uri = some true → a ≠ "" →
      RuleContains b a = true → matchedPath [a, b] uri = some (a, true) := by
    intro a b ha hb hne hba
    have hrun : [a, b].foldlM (matchStep uri) "" = some a := by
      rw [List.foldlM_cons, matchStep_of_true ha, if_neg (by simp), Option.bind_eq_bind, Option.bind_some,
        List.foldlM_cons, matchStep_of_true hb, if_pos (by simp [hne, hba])]
      rfl
    rw [matchedPath_of_foldlM hrun, if_neg hne]
  exact ⟨hfirst h₁ h₂ hne₁ h₂₁, hfirst h₂ h₁ hne₂ h₁₂⟩

theorem matchedPath_order_dependent_a :
    IsMatch "/a" "/a/b/c" = some true ∧ IsMatch "/a/b" "/a/b/c" = some true ∧ "/a" ≠ "" ∧ "/a/b" ≠ "" ∧
      Split "/a" '/' <+: Split "/a/b" '/' ∧
      matchedPath ["/a", "/a/b"] "/a/b/c" = some ("/a", true) ∧
      matchedPath ["/a/b", "/a"] "/a/b/c" = some ("/a/b", true) :=
  have h₁ : IsMatch "/a" "/a/b/c" = some true := by decide
  have h₂ : IsMatch "/a/b" "/a/b/c" = some true := by decide
  have hpre : Split "/a" '/' <+: Split "/a/b" '/' := ⟨["b"], by decide⟩
  ⟨h₁, h₂, by decide, by decide, hpre, matchedPath_order_dependent h₁ h₂ (by decide) (by decide) hpre⟩

/-- When every rule's expression is read and no rule is empty, `matchedPath`
    returns: a registered rule that matches the URI, or not found when no rule
    matches it. -/
theorem matchedPath_spec (handlers : List String) (uri : String) (hdef : ∀ r ∈ handlers, (IsMatch r uri).isSome)
    (hne : "" ∉ handlers) :
    ∃ res found, matchedPath handlers uri = some (res, found) ∧
      (found = true → res ∈ handlers ∧ IsMatch res uri = some true) ∧
      (found = false → res = "" ∧ ∀ r ∈ handlers, IsMatch r uri = some false) := by
  -- the invariant over the rules left: the candidate is empty, with every rule
  -- visited not matching, or a registered rule that matches
  let I : List String → String → Prop := fun l c =>
    (∀ r ∈ l, r ∈ handlers ∧ (IsMatch r uri).isSome) ∧
      (c ≠ "" → c ∈ handlers ∧ IsMatch c uri = some true) ∧
      (c = "" → ∀ r ∈ handlers, r ∉ l → IsMatch r uri = some false)
  have hstep : ∀ a l c, I (a :: l) c → ∃ c', matchStep uri c a = pure c' ∧ I l c' := by
    rintro a l c ⟨hl, hcand, hempty⟩
    obtain ⟨ha, hsome⟩ := hl a List.mem_cons_self
    have hrest : ∀ r ∈ l, r ∈ handlers ∧ (IsMatch r uri).isSome := fun r hr => hl r (List.mem_cons_of_mem a hr)
    obtain ⟨m, hm⟩ := Option.isSome_iff_exists.mp hsome
    cases m with
    | false =>
      refine ⟨c, matchStep_of_false hm, hrest, hcand, fun hc r hr hrl => ?_⟩
      by_cases hra : r = a
      · rw [hra, hm]
      · exact hempty hc r hr (by simp [hra, hrl])
    | true =>
      have hane : a ≠ "" := fun e => hne (e ▸ ha)
      refine ⟨_, matchStep_of_true hm, hrest, ?_, ?_⟩
      · by_cases hkeep : (c != "" && RuleContains a c) = true
        · rw [if_pos hkeep]
          exact hcand
        · rw [if_neg hkeep]
          exact fun _ => ⟨ha, hm⟩
      · by_cases hkeep : (c != "" && RuleContains a c) = true
        · rw [if_pos hkeep]
          simp only [Bool.and_eq_true, bne_iff_ne, ne_eq] at hkeep
          exact fun hc => absurd hc hkeep.1
        · rw [if_neg hkeep]
          exact fun e => absurd e hane
  obtain ⟨c, hrun, -, hcand, hempty⟩ :=
    foldlM_pure_of_step I hstep handlers "" ⟨fun r hr => ⟨hr, hdef r hr⟩, fun h => absurd rfl h, fun _ _ hr h => absurd hr h⟩
  rw [matchedPath_of_foldlM hrun]
  by_cases hc : c = ""
  · rw [if_pos hc]
    exact ⟨"", false, rfl, fun h => absurd h (by decide), fun _ => ⟨rfl, fun r hr => hempty hc r hr List.not_mem_nil⟩⟩
  · rw [if_neg hc]
    exact ⟨c, true, rfl, fun _ => hcand hc, fun h => absurd h (by decide)⟩

theorem matchedPath_spec_a :
    (∀ r ∈ ["/a", "/b/{id}"], (IsMatch r "/b/x").isSome) ∧ "" ∉ ["/a", "/b/{id}"] ∧
      ∃ res found, matchedPath ["/a", "/b/{id}"] "/b/x" = some (res, found) ∧
        (found = true → res ∈ ["/a", "/b/{id}"] ∧ IsMatch res "/b/x" = some true) ∧
        (found = false → res = "" ∧ ∀ r ∈ ["/a", "/b/{id}"], IsMatch r "/b/x" = some false) :=
  have hdef : ∀ r ∈ ["/a", "/b/{id}"], (IsMatch r "/b/x").isSome := by decide
  have hne : "" ∉ ["/a", "/b/{id}"] := by decide
  ⟨hdef, hne, matchedPath_spec _ _ hdef hne⟩

end KubeEdge.Router
