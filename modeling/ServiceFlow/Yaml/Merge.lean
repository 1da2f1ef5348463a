import ServiceFlow.Yaml.Node

/-!
# Merge keys

A mapping takes over the entries of the mappings that its merge keys name, in front of its own. The
mappings that are named take over entries first, so a mapping that names itself, directly or on a
way around, gives the entries that it has at that moment. Each merge key is removed before its value
is looked at; the number of merge keys therefore bounds the depth of calls.
-/

namespace ServiceFlow.Yaml.Nodes

/-- Whether a key takes over the entries of other mappings. -/
def isMergeKey (ns : Nodes) (n : Nat) : Bool := ns.tag n == .merge

/-- The value of the first merge key of a mapping, and the other entries. -/
def firstMerge? (ns : Nodes) (entries : List (Nat × Nat)) : Option (Nat × List (Nat × Nat)) :=
  match entries.span fun e => !ns.isMergeKey e.1 with
  | (before, (_, value) :: after) => some (value, before ++ after)
  | (_, []) => none

/-- The nodes in which the keys `=` of some entries are texts. -/
def nameKeys (ns : Nodes) (entries : List (Nat × Nat)) : Nodes :=
  entries.foldl (fun ns e => if ns.tag e.1 == .value then ns.setTag e.1 .text else ns) ns

/-- Takes over the entries of the mappings that the merge keys of a mapping name; `taken` are those
taken over so far. -/
def takeOver : Nat → Nodes → Nat → List (Nat × Nat) → Except Fault Nodes
  | 0, _, _, _ => .error .malformed
  | fuel + 1, ns, n, taken =>
    let own := (ns.entries? n).getD []
    match ns.firstMerge? own with
    | none =>
      let ns := ns.nameKeys own
      .ok (if taken.isEmpty then ns else ns.setContent n (.mapping (taken ++ own)))
    | some (value, others) => do
      let ns := ns.setContent n (.mapping others)
      match ns.content value with
      | .scalar _ => throw .malformed
      | .mapping _ => do
        let ns ← takeOver fuel ns value []
        takeOver fuel ns n (taken ++ (ns.entries? value).getD [])
      | .sequence items => do
        let (ns, lists) ← items.foldlM (fun (ns, lists) item => do
          if (ns.entries? item).isNone then throw .malformed
          let ns ← takeOver fuel ns item []
          return (ns, (ns.entries? item).getD [] :: lists)) (ns, [])
        takeOver fuel ns n (taken ++ lists.flatten)

/-- The nodes after a mapping has taken over entries; `bound` is at least the number of merge keys.
-/
def flatten (bound : Nat) (ns : Nodes) (n : Nat) : Except Fault Nodes :=
  takeOver (bound + 1) ns n []

end ServiceFlow.Yaml.Nodes
