import Demarcation.Candidate
import Demarcation.Cohesion

namespace Demarcation

open Text

def domainKeywords : List String := [
  "user", "customer", "account", "auth", "session", "role", "permission", "tenant", "organization", "team", "member",
  "profile", "order", "cart", "checkout", "product", "catalog", "inventory", "stock", "price", "pricing", "discount",
  "coupon", "promotion", "payment", "invoice", "billing", "subscription", "refund", "wallet", "ledger",
  "transaction", "shipment", "shipping", "delivery", "transport", "warehouse", "supplier", "notification", "alert",
  "message", "email", "chat", "report", "analytics", "metrics", "audit", "document", "file", "upload", "media",
  "content", "comment", "review", "search", "booking", "reservation", "schedule", "calendar", "event"]

structure ClusteringOptions where
  maxDependencyNodes : Int := 100
  extraKeywords : List String := []
  minSemanticGroup : Int := 2
  minDirectoryGroup : Int := 3
  minTableFunctions : Int := 2
  /-- What `maxDependencyNodes` comes to for so many declarations, where a setting of another type gives it. Such a
  setting is handed on, and only the strategy that uses it can fail on it. -/
  nodeLimit : Nat → Except Fault Int := fun _ => .ok maxDependencyNodes
  /-- The same for `extraKeywords`. -/
  keywords : Except Fault (List String) := .ok extraKeywords

namespace ClusteringOptions

def vocabulary (options : ClusteringOptions) : List String :=
  (options.extraKeywords.map lower).filter (!domainKeywords.contains ·) ++ domainKeywords

end ClusteringOptions

def groupsBy {α : Type} (key : α → String) (items : List α) : List (String × List α) :=
  items.foldl add []
where
  add (groups : List (String × List α)) (a : α) : List (String × List α) :=
    match groups with
    | [] => [(key a, [a])]
    | (k, as) :: rest => if k == key a then (k, as ++ [a]) :: rest else (k, as) :: add rest a

section

variable (R : Type) [Scalar R] (inv : Inventory) (options : ClusteringOptions)

/-- The first word of the vocabulary among the words of a declaration and of its file's name, in the singular or in
the plural; without one, the name of its directory. -/
def subject (vocabulary : List String) (d : Declaration) : String :=
  let stem := beforeLast '.' (baseName d.file)
  let tokens := nameTokens d.name ++ nameTokens stem
  let mentioned (word : String) : Bool :=
    tokens.contains word || tokens.contains (word ++ "s") || tokens.contains (word ++ "es")
  (vocabulary.find? mentioned).getD (directoryName d.file)

def Inventory.entries : List (Nat × Declaration) := inv.declarations.toList.zipIdx.map fun p => (p.2, p.1)

def semanticClusters : List (Candidate R) :=
  let vocabulary := options.vocabulary
  let groups := groupsBy (fun e => subject vocabulary e.2) inv.entries
  (groups.filter fun g => options.minSemanticGroup ≤ (g.2.length : Int)).map fun g =>
    .ofMembers inv "semantic" g.1 (g.2.map (·.1)) (SortedSet.ofList [g.1]) (semanticCohesion R (g.2.map (·.2)))

def linked (d e : Declaration) : Bool := Scalar.lt (Scalar.decimal 3 1) (strength R d e)

def starGroups {α : Type} (link : α → α → Bool) : Nat → List α → List (α × List α)
  | 0, _ => []
  | _, [] => []
  | fuel + 1, seed :: rest =>
    (seed, rest.filter (link seed)) :: starGroups link fuel (rest.filter fun a => !link seed a)

def dependencyClusters : Except Fault (List (Candidate R)) := do
  let sample ← strideSample inv.entries options.maxDependencyNodes
  let groups := starGroups (fun d e : Nat × Declaration => linked R d.2 e.2) sample.length sample
  return (groups.filter fun g => !g.2.isEmpty).map fun g =>
    let entries := g.1 :: g.2
    let group := entries.map (·.2)
    .ofMembers inv "dependency" (groupName group "module") (entries.map (·.1)) (groupKeywords group)
      (nameCohesion R group)

def accessors (a : Access) : List Nat :=
  (inv.entries.filter fun e => e.2.isFunction && e.2.name == a.function && e.2.file == a.file).map (·.1)

def databaseClusters : List (Candidate R) :=
  let groups := groupsBy (·.table) inv.accesses.toList
  let groups := groups.map fun g => (g.1, (g.2.flatMap (accessors inv)).eraseDups)
  (groups.filter fun g => options.minTableFunctions ≤ (g.2.length : Int)).map fun (table, members) =>
    let group := inv.pick members
    let (name, keywords) := match nameTokens table with
      | [] => let name := groupName group table; (name, SortedSet.ofList [name])
      | word :: words => (word, SortedSet.ofList (word :: words))
    { Candidate.ofMembers inv "database" name members keywords (nameCohesion R group) with
      accesses := inv.accesses.filter (·.table == table) }

def directoryClusters : List (Candidate R) :=
  let groups := groupsBy (fun e => directoryName e.2.file) inv.entries
  (groups.filter fun g => options.minDirectoryGroup ≤ (g.2.length : Int)).map fun g =>
    let group := g.2.map (·.2)
    .ofMembers inv "directory" g.1 (g.2.map (·.1)) (groupKeywords group) (nameCohesion R group)

end

structure Strategy (R : Type) where
  name : String
  propose : Inventory → ClusteringOptions → Except Fault (List (Candidate R))

structure StrategyFailure where
  strategy : String
  fault : Fault

def Strategy.all (R : Type) [Scalar R] : List (Strategy R) := [
  ⟨"semantic", fun inv options => do
    return semanticClusters R inv { options with extraKeywords := ← options.keywords }⟩,
  ⟨"dependency", fun inv options => do
    dependencyClusters R inv { options with maxDependencyNodes := ← options.nodeLimit inv.size }⟩,
  ⟨"database", fun inv options => .ok (databaseClusters R inv options)⟩,
  ⟨"directory", fun inv options => .ok (directoryClusters R inv options)⟩]

def runStrategies {R : Type} (inv : Inventory) (options : ClusteringOptions) (strategies : List (Strategy R)) :
    List (Candidate R) × List StrategyFailure :=
  let results := strategies.map fun s => (s.name, s.propose inv options)
  (results.flatMap fun r => match r.2 with | .ok found => found | .error _ => [],
    results.filterMap fun r => match r.2 with | .ok _ => none | .error fault => some ⟨r.1, fault⟩)

end Demarcation
