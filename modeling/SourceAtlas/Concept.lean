/-
Concepts of a code base by the paths of its files: a file shows a concept if
one of its directories is called by a keyword of the concept, or if its own
name starts with one, in any case. File contents are never read.

Consumed by the run.
-/
import SourceAtlas.Index
import SourceAtlas.Pattern.Search
import SourceAtlas.SourceFile
import SourceAtlas.Text.Case

namespace SourceAtlas.Concept

open Pattern

/-- The concepts with their keywords. -/
def table : List (String × List String) :=
  [("authentication", ["auth", "login", "logout", "signin", "signout",
    "session", "jwt", "oauth"]),
   ("authorization", ["permission", "role", "access", "policy", "guard"]),
   ("database", ["prisma", "sequelize", "typeorm", "mongoose", "knex", "sql",
     "query", "migration",
     "db"]),
   ("api", ["route", "endpoint", "controller", "handler"]),
   ("error_handling", ["error", "exception", "fault"]),
   ("validation", ["valid", "schema", "zod", "yup", "joi"]),
   ("testing", ["test", "spec", "mock", "stub", "fixture"]),
   ("logging", ["logger", "winston", "pino"]),
   ("caching", ["cache", "redis", "memcache"]),
   ("email", ["email", "mail", "smtp", "sendgrid"]),
   ("payments", ["payment", "stripe", "paypal", "billing", "invoice"]),
   ("uploads", ["upload", "multer", "s3", "storage"]),
   ("websockets", ["socket", "realtime", "pubsub"]),
   ("scheduling", ["cron", "schedule", "job", "queue", "worker"])]

/-- No two concepts are called alike. -/
theorem nodup_table : (table.map fun row => row.1.toList).Nodup := by
  decide +kernel

/-- The concepts without any files yet. -/
def blank : Table (List Text) where
  entries := table.map fun row => (row.1.toList, [])
  distinct := by
    rw [List.map_map]
    exact nodup_table

/-- A keyword in any case. -/
def keyword : Text → Pattern
  | [] => empty
  | k :: rest => seq (char fun c => Text.foldCase c == k) (keyword rest)

/-- One of the keywords. -/
def anyKeyword (keywords : List String) : Pattern :=
  oneOf (keywords.map fun k => keyword k.toList)

/-- A last component that starts with a keyword, or a component before it
that is one; the path has a slash in front. -/
def mark (keywords : List String) : Pattern :=
  alt (lit "/" ++ anyKeyword keywords ++ many (except ['/']) ++ anchor .textEnd)
    (lit "/" ++ anyKeyword keywords ++ lit "/")

/-- Whether a path shows the concept with the given keywords. -/
def shows (keywords : List String) (path : Text) : Bool :=
  ((mark keywords).find? ('/' :: path)).isSome

/-- The concepts that one file shows. -/
def classify (limit : Int) (path : Text) : ConceptMap :=
  table.foldl (fun m (name, keywords) => if shows keywords path
    then m.add name.toList path else m) (.empty limit)

/-- The concepts that a list of files shows: concepts in the order of the
table, files in the order of the list. -/
def extract (limit : Int) (paths : List Text) : ConceptMap :=
  paths.foldl (fun m path => m.merge (classify limit path)) ⟨limit, blank⟩

end SourceAtlas.Concept
