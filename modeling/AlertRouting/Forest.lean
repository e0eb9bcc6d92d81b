/-!
# Forests

A forest is an ordered list of trees, here as a node, the forest of its children, and the trees that
follow it. A path names a node by its position in each level.
-/
namespace AlertRouting

inductive Forest (α : Type) where
  | nil
  | node (a : α) (children rest : Forest α)
deriving DecidableEq, Repr, Inhabited

namespace Forest
variable {α β : Type}

def length : Forest α → Nat
  | nil => 0
  | node _ _ rest => rest.length + 1

def isEmpty : Forest α → Bool
  | nil => true
  | node .. => false

/-- The number of nodes on the longest way down. -/
def depth : Forest α → Nat
  | nil => 0
  | node _ children rest => max (children.depth + 1) rest.depth

def map (f : α → β) : Forest α → Forest β
  | nil => nil
  | node a children rest => node (f a) (children.map f) (rest.map f)

/-- The trees, each with the value of its root and the forest below. -/
def trees : Forest α → List (α × Forest α)
  | nil => []
  | node a children rest => (a, children) :: rest.trees

def push : Forest α → α → Forest α → Forest α
  | nil, a, below => node a below nil
  | node b children rest, a, below => node b children (rest.push a below)

def eraseIdx : Forest α → Nat → Forest α
  | nil, _ => nil
  | node _ _ rest, 0 => rest
  | node a children rest, i + 1 => node a children (rest.eraseIdx i)

def get? : Forest α → List Nat → Option (α × Forest α)
  | _, [] => none
  | nil, _ :: _ => none
  | node a children _, [0] => some (a, children)
  | node _ children _, 0 :: path => children.get? path
  | node _ _ rest, (i + 1) :: path => rest.get? (i :: path)

def modify? (f : α → Forest α → α × Forest α) : Forest α → List Nat → Option (Forest α)
  | _, [] => none
  | nil, _ :: _ => none
  | node a children rest, [0] => let t := f a children; some (node t.1 t.2 rest)
  | node a children rest, 0 :: path => (children.modify? f path).map fun c => node a c rest
  | node a children rest, (i + 1) :: path =>
    (rest.modify? f (i :: path)).map fun r => node a children r

end Forest

end AlertRouting
