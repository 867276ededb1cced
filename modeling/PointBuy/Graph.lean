/-!
# Searching a graph for a cycle

The nodes of a graph are numbered from 0, and each has a list of the nodes that it points to. The
search goes depth first, from each node in turn that has not been seen before. It marks a node as
`open` when it enters it and as `done` when it has followed all edges from it, so that an edge to an
open node closes a cycle. The number of edges that it goes down from where it started is bounded.

## Main definitions

* `Graph.visit` : the search from one node.
* `Graph.search` : the search of a whole graph.
-/

namespace PointBuy

/-- The nodes that each node points to. -/
abbrev Graph := Array (List Nat)

namespace Graph

/-- The nodes that a node points to. -/
def pointedTo (graph : Graph) (node : Nat) : List Nat := graph[node]?.getD []

/-- The number of edges. -/
def edgeCount (graph : Graph) : Nat := graph.foldl (fun count nodes => count + nodes.length) 0

/-- How far the search has come with a node. -/
inductive Mark where
  | unseen
  /-- Some edge from the node is still to be followed. -/
  | open
  | done
deriving DecidableEq, Inhabited

/-- What ends a search early. -/
inductive Finding where
  /-- Each member points to the next one, and the last one to the first. -/
  | cycle (members : List Nat)
  /-- The search would have to go deeper than it may to enter this node. -/
  | tooDeep (node : Nat)
deriving DecidableEq

/-- The cycle that an edge to a node closes, where the path, last node first, holds that node. -/
def closedBy (path : List Nat) (node : Nat) : List Nat :=
  node :: (path.takeWhile (· != node)).reverse

/-- Searches from a node, where `room` more nodes may be entered on one path, and `path` holds the
nodes that lead here, last one first. -/
def visit (graph : Graph) : (room : Nat) → (path : List Nat) → (node : Nat) → Array Mark →
    Except Finding (Array Mark)
  | 0, _, node, _ => .error (.tooDeep node)
  | room + 1, path, node, marks => do
    let marks ← (graph.pointedTo node).foldlM
      (fun (marks : Array Mark) (next : Nat) =>
        match marks[next]? with
        | some .open => .error (.cycle (closedBy (node :: path) next))
        | some .unseen => visit graph room (node :: path) next marks
        | some .done | none => .ok marks)
      (marks.setIfInBounds node .open)
    return marks.setIfInBounds node .done

/-- Searches a graph, going down at most `depth` edges. -/
def search (graph : Graph) (depth : Nat) : Except Finding Unit :=
  discard <| (List.range graph.size).foldlM
    (fun (marks : Array Mark) (node : Nat) =>
      match marks[node]? with
      | some .unseen => visit graph (depth + 1) [] node marks
      | some .open | some .done | none => .ok marks)
    (Array.replicate graph.size .unseen)

end Graph
end PointBuy
