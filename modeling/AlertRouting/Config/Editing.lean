import AlertRouting.Config.Basic

/-!
# Editing a configuration

A route is named by its path. The empty path names no route, but the level at the top.
-/
namespace AlertRouting.Config

def level? (c : Config) (path : List Nat) : Option Config :=
  if path.isEmpty then some c else (c.get? path).map (·.2)

def add? (c : Config) (path : List Nat) (s : Settings) (inner : Config) : Option Config :=
  if path.isEmpty then some (c.push s inner)
  else c.modify? (fun a children => (a, children.push s inner)) path

def remove? (c : Config) (path : List Nat) : Option Config :=
  match path.getLast? with
  | none => none
  | some i =>
    let outer := path.dropLast
    if (c.level? outer).all (·.length ≤ i) then none
    else if outer.isEmpty then some (c.eraseIdx i)
    else c.modify? (fun a children => (a, children.eraseIdx i)) outer

def update? (c : Config) (path : List Nat) (f : Settings → Settings) : Option Config :=
  c.modify? (fun a children => (f a, children)) path

/-- Puts all routes inside one for which nothing is written, a number of times. -/
def wrap : Nat → Config → Config
  | 0, c => c
  | n + 1, c => wrap n (.node .empty c .nil)

end AlertRouting.Config
