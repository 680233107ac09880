/-!
# Nodes of YAML documents

A document is a tree of scalars, sequences and mappings.  As written it may also
name a node with an anchor, stand in for a named node, and put a tag before one.
Settling a written node replaces every mention by the node that bears the name,
checks that the handles of tags are declared, and drops the tags.
-/

namespace SapMonitor.Yaml

/-- A node of a document.  A scalar knows whether it was written plainly; only
plain scalars can stand for numbers and truth values. -/
inductive Node where
  | scalar (text : String) (plain : Bool)
  | sequence (items : List Node)
  | mapping (entries : List (Node × Node))

/-- A node as it is written. -/
inductive Draft where
  | scalar (text : String) (plain : Bool)
  | sequence (items : List Draft)
  | mapping (entries : List (Draft × Draft))
  /-- A node with a name that later places can mention. -/
  | anchored (name : String) (content : Draft)
  /-- A node whose tag has the handle. -/
  | tagged (handle : String) (content : Draft)
  /-- A place where the node with the name stands again. -/
  | mention (name : String)

/-- The node of a missing value. -/
def Draft.absent : Draft := .scalar "" true

/-- The named nodes so far, the last one first. -/
abbrev Anchors := List (String × Node)

namespace Draft

mutual

/-- The node that is meant, and the named nodes after it; `none` if a name or a
handle is not known. -/
def settle? (handles : List String) (known : Anchors) : Draft → Option (Node × Anchors)
  | .scalar text plain => some (.scalar text plain, known)
  | .sequence items =>
    (settleItems? handles known items).map fun (ns, known) => (.sequence ns, known)
  | .mapping entries =>
    (settleEntries? handles known entries).map fun (es, known) => (.mapping es, known)
  | .anchored name content =>
    (settle? handles known content).map fun (n, known) => (n, (name, n) :: known)
  | .tagged handle content =>
    if handles.contains handle then settle? handles known content else none
  | .mention name => (known.lookup name).map fun n => (n, known)

/-- The items of a sequence, from left to right. -/
def settleItems? (handles : List String) (known : Anchors) :
    List Draft → Option (List Node × Anchors)
  | [] => some ([], known)
  | d :: rest =>
    match settle? handles known d with
    | none => none
    | some (n, known) =>
      (settleItems? handles known rest).map fun (ns, known) => (n :: ns, known)

/-- The entries of a mapping, each key before its value. -/
def settleEntries? (handles : List String) (known : Anchors) :
    List (Draft × Draft) → Option (List (Node × Node) × Anchors)
  | [] => some ([], known)
  | e :: rest =>
    match settleEntry? handles known e with
    | none => none
    | some (n, known) =>
      (settleEntries? handles known rest).map fun (ns, known) => (n :: ns, known)

/-- A key and its value. -/
def settleEntry? (handles : List String) (known : Anchors) :
    Draft × Draft → Option ((Node × Node) × Anchors)
  | (key, value) =>
    match settle? handles known key with
    | none => none
    | some (k, known) => (settle? handles known value).map fun (v, known) => ((k, v), known)

end

end Draft

end SapMonitor.Yaml
