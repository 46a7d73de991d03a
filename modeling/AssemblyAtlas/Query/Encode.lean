import AssemblyAtlas.Query.Report
import AssemblyAtlas.Settings

/-!
# Reports as JSON

The fields of each report, followed by those of its page where it has one.
-/

namespace AssemblyAtlas

open Json

/-- A usage as JSON. -/
def Usage.toJson (u : Usage) : Json :=
  record ([("member", text u.member), ("member_name", text u.memberName),
    ("declaring_type", text u.declaringType), ("assembly", text u.assembly),
    ("kind", text u.kind.label)] ++ field? "offset" (fun n : UInt32 => nat n.toNat) u.offset)

/-- A reference as JSON. -/
def Reference.toJson (r : Reference) : Json :=
  record ([("context", text r.context.label), ("from_member", text r.fromMember),
    ("in_assembly", text r.inAssembly)] ++ field? "parameter" text r.parameter)

/-- A group of references as JSON. -/
def ReferenceGroup.toJson (g : ReferenceGroup) : Json :=
  record [("context", text g.context.label), ("count", nat g.count),
    ("edges", list Reference.toJson g.references)]

/-- The fields of a call graph node, but for the calls. -/
def CallInfo.toFields (n : CallInfo) : List (String × Json) :=
  [("method", text n.method), ("declaring_type", text n.declaringType),
    ("assembly", nullable text n.assembly), ("depth", nat n.depth),
    ("call_count", nat n.callCount), ("status", text n.status.label)]

mutual
/-- A call graph as JSON. -/
def CallNode.toJson : CallNode → Json
  | ⟨info, calls⟩ => record (info.toFields ++ [("calls_to", .array (CallNode.allToJson calls))])
/-- The call graphs of a list as JSON. -/
def CallNode.allToJson : List CallNode → List Json
  | [] => []
  | n :: ns => CallNode.toJson n :: CallNode.allToJson ns
end

/-- A path as JSON. -/
def pathToJson (path : List String) : Json :=
  list text path

/-- Dependencies between assemblies as JSON. -/
def matrixToJson (rows : List (String × List String)) : Json :=
  record (rows.map fun (name, owners) => (name, list text owners))

/-- Dead code as JSON. -/
def DeadCode.toJson (d : DeadCode) : Json :=
  record [("assembly", text d.assembly), ("include_private", .bool d.includePrivate),
    ("dead_methods", list text d.methods), ("dead_types", list text d.types),
    ("methods_considered", nat d.methodsConsidered), ("types_considered", nat d.typesConsidered),
    ("caveats", list text DeadCode.caveats)]

/-- A type location as JSON. -/
def TypeLocation.toJson (l : TypeLocation) : Json :=
  record [("full_name", text l.fullName), ("assembly", text l.assembly)]

/-- A hierarchy as JSON. -/
def Hierarchy.toJson (h : Hierarchy) : Json :=
  record [("full_name", text h.fullName), ("assembly", text h.assembly),
    ("base_chain", list text h.baseChain), ("interfaces", list text h.interfaces),
    ("derived_types", list TypeLocation.toJson h.derivedTypes),
    ("implementors", list TypeLocation.toJson h.implementors)]

/-- Settings as JSON. -/
def Settings.toJson (s : Settings) : Json :=
  record [("page_size", nat s.pageSize), ("call_depth", nat s.callDepth),
    ("path_length", nat s.pathLength), ("include_private", .bool s.includePrivate)]

/-- A report on usages as JSON. -/
def UsageReport.toJson (r : UsageReport) : Json :=
  record ([("target", text r.target), ("assembly", text r.assembly),
    ("kind", text r.kind.label)] ++ r.page.toFields Usage.toJson)

/-- A report on references as JSON. -/
def ReferenceReport.toJson (r : ReferenceReport) : Json :=
  record ([("target", text r.target), ("assembly", text r.assembly),
    ("by_context", record (r.byContext.map fun (context, n) => (context.label, nat n)))] ++
    r.page.toFields Reference.toJson)

/-- A report on a call graph as JSON. -/
def CallGraphReport.toJson (r : CallGraphReport) : Json :=
  record [("root", text r.root), ("max_depth", nat r.maxDepth),
    ("node_count", nat r.graph.size), ("graph", r.graph.toJson)]

/-- A report on dependency paths as JSON. -/
def PathReport.toJson (r : PathReport) : Json :=
  record ([("source", text r.source), ("source_assembly", text r.sourceAssembly),
    ("target", text r.target), ("target_assembly", text r.targetAssembly),
    ("max_path_length", nat r.maxLength)] ++ r.page.toFields pathToJson)

/-- A report on dependencies between assemblies as JSON. -/
def matrixReportToJson (rows : List (String × List String)) : Json :=
  record [("assembly_count", nat rows.length), ("dependencies", matrixToJson rows)]

/-- A dead symbol as JSON. -/
def DeadSymbol.toJson (s : DeadSymbol) : Json :=
  record [("kind", text s.kind.label), ("full_name", text s.fullName)]

/-- A report on dead code as JSON. -/
def DeadCodeReport.toJson (r : DeadCodeReport) : Json :=
  record ([("assembly", text r.deadCode.assembly),
    ("include_private", .bool r.deadCode.includePrivate),
    ("dead_type_count", nat r.deadCode.types.length),
    ("dead_method_count", nat r.deadCode.methods.length),
    ("types_considered", nat r.deadCode.typesConsidered),
    ("methods_considered", nat r.deadCode.methodsConsidered),
    ("caveats", list text DeadCode.caveats)] ++ r.page.toFields DeadSymbol.toJson)

/-- A report on a search as JSON. -/
def SearchReport.toJson (r : SearchReport) : Json :=
  record (("pattern", text r.pattern) :: r.page.toFields SymbolMatch.toJson)

end AssemblyAtlas
