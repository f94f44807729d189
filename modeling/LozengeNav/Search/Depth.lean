/-!
# Depth-first search

A walk with an explicit stack.  Opening a node says whether the walk is over and which nodes come
next; nodes are told apart by a key, and each key is opened at most once.
-/

namespace LozengeNav

namespace Search

variable {m : Type → Type} [Monad m] {α κ : Type} [DecidableEq κ]

/-- Walk from a stack, its top first.  Each node that is opened takes one unit of `fuel`. -/
def depthFrom (expand : α → m (Bool × List α)) (key : α → κ) (fuel : Nat) (stack : List α)
    (seen : List κ) : m Bool :=
  match stack with
  | [] => pure false
  | node :: rest =>
    if key node ∈ seen then depthFrom expand key fuel rest seen
    else
      match fuel with
      | 0 => pure false
      | fuel + 1 => do
        let (found, successors) ← expand node
        if found then
          return true
        else
          depthFrom expand key fuel (successors ++ rest) (key node :: seen)
termination_by (fuel, stack.length)

/-- Whether the walk from `root` is over before its stack is empty.  At most `fuel` nodes are
opened, which is no restriction if there are no more than `fuel` keys. -/
def depthFirst (expand : α → m (Bool × List α)) (key : α → κ) (fuel : Nat) (root : α) : m Bool :=
  depthFrom expand key fuel [root] []

end Search

end LozengeNav
