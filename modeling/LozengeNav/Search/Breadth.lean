/-!
# Breadth-first search

A search that asks for the successors of a node through a monad, so that each question may have an
effect.  Nodes are told apart by a key and a node whose key was met before is not queued again.  The
goal is tested when a node leaves the queue.
-/

namespace LozengeNav

namespace Search

variable {m : Type → Type} [Monad m] {α κ : Type} [DecidableEq κ]

/-- Keep the nodes of which no earlier one, and no key in `seen`, has the key; and the keys seen
then. -/
def fresh (key : α → κ) (seen : List κ) : List α → List α × List κ
  | [] => ([], seen)
  | a :: rest =>
    if key a ∈ seen then fresh key seen rest
    else
      let (more, final) := fresh key (key a :: seen) rest
      (a :: more, final)

/-- Search from a queue.  Each node that leaves the queue takes one unit of `fuel`. -/
def breadthFrom (neighbors : α → m (Option (List α))) (isGoal : α → m Bool) (key : α → κ) :
    Nat → List α → List κ → m (Option α)
  | _, [], _ => pure none
  | 0, _ :: _, _ => pure none
  | fuel + 1, node :: queue, seen => do
    if ← isGoal node then
      return some node
    else
      let successors ← neighbors node
      let (new, seen) := fresh key seen (successors.getD [])
      breadthFrom neighbors isGoal key fuel (queue ++ new) seen

/-- The first goal in breadth-first order from the roots.  At most `fuel` nodes are looked at, which
is no restriction if there are no more than `fuel` keys. -/
def breadthFirst (neighbors : α → m (Option (List α))) (isGoal : α → m Bool) (key : α → κ)
    (fuel : Nat) (roots : List α) : m (Option α) :=
  let (queue, seen) := fresh key [] roots
  breadthFrom neighbors isGoal key fuel queue seen

end Search

end LozengeNav
