import AssemblyAtlas.Catalog.Basic

/-!
# Call graphs

The calls that a method makes, the calls that the called methods make, and so on to a given depth.
A method is expanded once in the whole graph: when it is called again, by recursion or on another
way, it is a leaf. Calls through reflection, delegates or dynamic dispatch do not show in
instructions and are not part of the graph.
-/

namespace AssemblyAtlas

/-- What became of a called method. -/
inductive CallStatus where
  | expanded
  | depthLimit
  | recursive
  | external
deriving DecidableEq, Repr

/-- The word for a status. -/
def CallStatus.label : CallStatus → String
  | .expanded => "expanded"
  | .depthLimit => "depth_limit"
  | .recursive => "recursive"
  | .external => "external"

/-- A method in a call graph, but for the methods it calls. -/
structure CallInfo where
  /-- The full name of the method. -/
  method : String
  /-- The full name of the type that declares it. -/
  declaringType : String
  /-- The name of the assembly that declares the type, where it is known. -/
  assembly : Option String
  /-- The number of calls that lead to it from the root. -/
  depth : Nat
  /-- The number of calls of it in the calling method. -/
  callCount : Nat
  /-- What became of it. -/
  status : CallStatus
deriving DecidableEq, Repr

/-- A method in a call graph with the methods it calls. -/
structure CallNode extends CallInfo where
  /-- The methods it calls. -/
  calls : List CallNode
deriving Repr

namespace CallNode

mutual
/-- The number of nodes from this one on. -/
def size : CallNode → Nat
  | ⟨_, calls⟩ => sizeOfAll calls + 1
/-- The number of nodes from those of a list on. -/
def sizeOfAll : List CallNode → Nat
  | [] => 0
  | n :: ns => size n + sizeOfAll ns
end

mutual
/-- The nodes from this one on, each before those it calls. -/
def preorder : CallNode → List CallNode
  | ⟨info, calls⟩ => ⟨info, calls⟩ :: preorderOfAll calls
/-- The nodes from those of a list on. -/
def preorderOfAll : List CallNode → List CallNode
  | [] => []
  | n :: ns => preorder n ++ preorderOfAll ns
end

/-- The node of a method, before what it calls is known. -/
def ofMethod (m : MethodSymbol) (depth callCount : Nat) (status : CallStatus) : CallNode :=
  { method := m.fullName
    declaringType := m.type.fullName
    assembly := some m.assembly.name
    depth, callCount, status
    calls := [] }

end CallNode

/-- The calls of one method by another. -/
structure Callee where
  /-- The full name of the called method. -/
  key : String
  /-- The called method, if it is found. -/
  resolved : Option MethodSymbol
  /-- How the first of the calls names it. -/
  target : MemberRef
  /-- The number of calls. -/
  count : Nat

namespace Callee

/-- Counts a call: once more for a method that was called before, else as a new one. -/
def tally : List Callee → Callee → List Callee
  | [], new => [new]
  | old :: rest, new =>
    if old.key == new.key then { old with count := old.count + new.count } :: rest
    else old :: tally rest new

/-- The node of a method that is not found. -/
def externalNode (c : Callee) (depth : Nat) : CallNode :=
  { method := c.key
    declaringType := c.target.declaringType
    assembly := c.target.assembly
    depth
    callCount := c.count
    status := .external
    calls := [] }

end Callee

namespace Catalog

/-- A single call in the body of a method. The name of the called method is its full name where it
is found, and else the name that the call gives. -/
def calleeOf (c : Catalog) (m : MethodSymbol) (target : MemberRef) : Callee :=
  let resolved := c.resolveMethod? target (some m.assembly.name)
  { key := (resolved.map (·.fullName)).getD target.fullName
    resolved, target
    count := 1 }

/-- The methods that a method calls, in the order of their first calls. -/
def callees (c : Catalog) (m : MethodSymbol) : List Callee :=
  (m.method.invocations.map fun (target, _) => c.calleeOf m target).foldl Callee.tally []

/-- The node of a method that is `remaining` levels above the depth limit, and the methods expanded
after it, given those expanded before. -/
def expand (c : Catalog) : (remaining : Nat) → MethodSymbol → (depth callCount : Nat) →
    (expanded : List String) → CallNode × List String
  | 0, m, depth, callCount, expanded => (.ofMethod m depth callCount .depthLimit, expanded)
  | remaining + 1, m, depth, callCount, expanded =>
    let visit (acc : List CallNode × List String) (callee : Callee) :
        List CallNode × List String :=
      match callee.resolved with
      | none => (acc.1 ++ [callee.externalNode (depth + 1)], acc.2)
      | some r =>
        if acc.2.contains callee.key then
          (acc.1 ++ [.ofMethod r (depth + 1) callee.count .recursive], acc.2)
        else
          let (node, expanded) := expand c remaining r (depth + 1) callee.count acc.2
          (acc.1 ++ [node], expanded)
    let (calls, expanded) := (c.callees m).foldl visit ([], m.fullName :: expanded)
    ({ CallNode.ofMethod m depth callCount .expanded with calls }, expanded)

/-- The call graph of a method, to the given depth. Depth 0 is the method alone. -/
def callGraph (c : Catalog) (root : MethodSymbol) (maxDepth : Nat) : CallNode :=
  (c.expand maxDepth root 0 0 []).1

end Catalog

end AssemblyAtlas
