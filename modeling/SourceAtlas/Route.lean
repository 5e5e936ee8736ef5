/-
Entry points of a web server: the routes that a file declares, each with its
request method and its line. Some frameworks route by the place of a file: under
an `app` or `api` directory a file called `route` exports one function per
method, and under `pages/api` every file handles all methods of its path. The
others register routes by calls, `router.get('/path', …)` in scripts and
`r.GET("/path", …)` or `mux.HandleFunc("GET /path", …)` in Go, or by decorators
in Python, `@app.get("/path")`; there lines are scanned one by one.

Consumed by extraction and by the choice of rules.
-/
import SourceAtlas.Index
import SourceAtlas.Pattern.Search
import SourceAtlas.SourceFile
import SourceAtlas.Text.Case

namespace SourceAtlas.Route

open Pattern

-- ============================================================ segments

-- One segment of a routing directory is put into URL syntax or contributes
-- nothing, and a route joins what remains.

/-- `[...name]` or `[[...name]]`: everything from here on. -/
def catchAll : Pattern :=
  lit "[" ++ opt (lit "[") ++ lit "..." ++ group .name (many1 (except [']']))
    ++ lit "]" ++ opt (lit "]")

/-- `[name]`: one parameter. -/
def parameter : Pattern :=
  lit "[" ++ group .name (many1 (except [']'])) ++ lit "]"

/-- A segment in URL syntax. Groups in parentheses, slots that start with
`@` and empty segments contribute nothing. -/
def urlSegment (segment : Text) : Option Text :=
  if segment.isEmpty then none
  else if ['('].isPrefixOf segment && [')'].isSuffixOf segment then none
  else if ['@'].isPrefixOf segment then none
  else match catchAll.matchWhole segment with
    | some m => some (':' :: m.get .name ++ ['*'])
    | none => some (parameter.replaceAll (fun m => ':' :: m.get .name) segment)

/-- The route of a list of segments: a slash, then the URL segments
with slashes between them. -/
def build (segments : List Text) : Text :=
  '/' :: Text.join ['/']
    ((segments.filterMap urlSegment).filter fun s => !s.isEmpty)

-- ================================================= routing directories

/-- The request methods. -/
def verbs : List String :=
  ["GET", "POST", "PUT", "PATCH", "DELETE", "HEAD", "OPTIONS"]

/-- Stands for every request method. -/
def anyMethod : Text := ['*']

/-- Why the place of a file declares no route. -/
inductive PlaceError where
  /-- No `app` or `api` directory above the file. -/
  | noRoutingDirectory
  /-- No `pages/api` directory above the file. -/
  | noPagesDirectory
  deriving DecidableEq, Repr

-- ================================================= the `app` directory

/-- The name of a file that declares handlers. -/
def routeFileName : Pattern :=
  lit "route." ++ anyOf ["ts", "tsx", "js", "jsx"] ++ anchor .textEnd

/-- An exported function or variable named for a request method. -/
def handler : Pattern :=
  indent ++ lit "export" ++ blanks1
    ++ alt (opt (lit "async" ++ blanks1) ++ lit "function" ++ blanks
      ++ opt (lit "*") ++ blanks)
      (anyOf ["const", "let", "var"] ++ blanks1)
    ++ group .method (anyOf verbs) ++ wordEdge

/-- The components of a file's directory. -/
def directories (f : SourceFile) : List Text := Path.components f.directory

/-- Whether a file declares handlers by its place. -/
def acceptsApp (f : SourceFile) : Bool :=
  (routeFileName.matchStart f.name).isSome &&
    ((directories f).contains "api" || (directories f).contains "app")

/-- What follows the last occurrence of an item. -/
def afterLastItem (x : Text) (items : List Text) : List Text :=
  (items.reverse.takeWhile (· != x)).reverse

/-- What follows the first occurrence of an item. -/
def afterFirstItem (x : Text) (items : List Text) : List Text :=
  (items.dropWhile (· != x)).drop 1

/-- The segments below the last `api` directory, or else below the first
`app` directory. -/
def appSegments (f : SourceFile) : Except PlaceError (List Text) :=
  if (directories f).contains "api"
    then .ok (afterLastItem "api" (directories f))
  else if (directories f).contains "app"
    then .ok (afterFirstItem "app" (directories f))
  else .error .noRoutingDirectory

/-- Every method with the line of its first handler, in the order of the
methods' names. -/
def handlerLines (text : Text) : List (Text × Nat) :=
  let found := (handler.findAll text).filterMap fun m =>
    (m.capture? .method).map fun c => (c.text, text.lineAt c.start)
  let first :=
    found.foldl (fun t (verb, line) => if t.has verb then t
      else t.put verb line) (Table.empty : Table Nat)
  first.sorted

/-- The entry points of a file under an `app` or `api` directory. -/
def scanApp (f : SourceFile) (text : Text) :
    Except PlaceError (List EntryPoint) := do
  let segments ← appSegments f
  return (handlerLines text).map fun (verb, line) =>
    ⟨verb, build segments, ⟨f.path, line⟩⟩

-- =============================================== the `pages` directory

/-- The directory whose files are routes. -/
def pagesMark : Text := "/pages/api/"

/-- Whether a file lies under `pages/api`. -/
def acceptsPages (f : SourceFile) : Bool := Text.holds pagesMark ('/' :: f.path)

/-- The segments below the first `pages/api`, without the extension and
without a closing `index`. -/
def pagesSegments (f : SourceFile) : Except PlaceError (List Text) :=
  match Text.cut? pagesMark ('/' :: f.path) with
  | none => .error .noPagesDirectory
  | some (_, below) =>
    let segments :=
      Path.components (below.take (below.length - f.extension.length))
    .ok (if segments.getLast? = some "index".toList then segments.dropLast
      else segments)

/-- The entry point of a file under `pages/api`. -/
def scanPages (f : SourceFile) : Except PlaceError (List EntryPoint) := do
  let segments ← pagesSegments f
  return [⟨anyMethod, build segments, ⟨f.path, 1⟩⟩]

-- =================================================== registering calls

/-- The lines of a text with their numbers from 1 on. -/
def numberedLines (text : Text) : List (Nat × Text) :=
  ((Text.lines text).zipIdx 1).map fun (line, n) => (n, line)

-- ============================================================= scripts

/-- A path literal that may be missing: quoted, or a template without
substitutions. -/
def callPath : Pattern :=
  opt (alt (eachQuote fun q =>
    only q ++ group .path (many1 (except [q, '\n'])) ++ only q)
    (only '\x60' ++ group .path (many1 (except ['\x60', '$'])) ++ only '\x60'))

/-- A registration on `app` or `router`. -/
def routeCall : Pattern :=
  wordEdge ++ anyOf ["app", "router"] ++ lit "."
    ++ group .method (anyOf ["get", "post", "put", "patch", "delete", "all"])
    ++ blanks ++ lit "(" ++ blanks ++ callPath

/-- The method that a registration names. -/
def callMethod (name : Text) : Text :=
  if name = "all".toList then anyMethod else Text.capitals name

/-- The entry points that a script registers. -/
def scanCalls (f : SourceFile) (text : Text) : List EntryPoint :=
  (numberedLines text).flatMap fun (n, line) =>
    (routeCall.findAll line).filterMap fun m =>
      (m.get? .path).map fun path =>
        ⟨callMethod (m.get .method), path, ⟨f.path, n⟩⟩

-- ================================================================== Go

/-- A non-empty literal in double quotes after an opening parenthesis. -/
def goPath : Pattern :=
  lit "(" ++ blanks ++ only '\x22' ++ group .path (many1 (except ['\x22']))
    ++ only '\x22'

/-- A registration whose method name is the request method. -/
def verbCall : Pattern :=
  wordEdge ++ many1 Text.isWord ++ lit "."
    ++ group .method (anyOf
      ["GET", "POST", "PUT", "PATCH", "DELETE", "HEAD", "OPTIONS", "Any",
        "Get", "Post", "Put", "Patch", "Delete", "Head", "Options"])
    ++ goPath

/-- A registration of a handler for a pattern. -/
def handleCall : Pattern :=
  wordEdge ++ many1 Text.isWord ++ lit "." ++ anyOf ["HandleFunc", "Handle"]
    ++ goPath

/-- A pattern that starts with a request method. -/
def methodPattern : Pattern :=
  group .method (anyOf verbs) ++ blanks1
    ++ group .path (many1 fun c => !Text.isBlank c) ++ anchor .textEnd

/-- Method and path of a pattern. -/
def splitPattern (pattern : Text) : Text × Text :=
  match methodPattern.matchStart pattern with
  | some m => (m.get .method, m.get .path)
  | none => (anyMethod, pattern)

/-- The method that a Go registration names. -/
def goMethod (name : Text) : Text :=
  if name = "Any".toList then anyMethod else Text.capitals name

/-- The entry points that one line of Go registers: those by method first,
then those by pattern. -/
def scanGoLine (location : Location) (line : Text) : List EntryPoint :=
  (verbCall.findAll line).map
    (fun m => ⟨goMethod (m.get .method), m.get .path, location⟩)
    ++ (handleCall.findAll line).map fun m =>
      let (method, path) := splitPattern (m.get .path)
      ⟨method, path, location⟩

/-- The entry points that a Go file registers. -/
def scanGo (f : SourceFile) (text : Text) : List EntryPoint :=
  (numberedLines text).flatMap fun (n, line) => scanGoLine ⟨f.path, n⟩ line

-- ========================================================== decorators

-- The path is the first argument if that is a literal, else a `path` or `rule`
-- keyword.

/-- The names that stand for a router. -/
def routerName : Pattern :=
  oneOf [lit "app", lit "router", lit "api", lit "bp", lit "blueprint",
    many1 Text.isWord ++ lit "_" ++ anyOf ["router", "app", "bp", "api"]]

/-- A decorator line: the attribute and everything after the parenthesis. -/
def decorator : Pattern :=
  blanks ++ lit "@" ++ routerName ++ lit "."
    ++ group .method (anyOf
      ["get", "post", "put", "patch", "delete", "head", "options", "route",
        "api_route"])
    ++ blanks ++ lit "(" ++ group .clause (many inLine) ++ anchor .textEnd

/-- The list of the `methods` keyword. -/
def methodList : Pattern :=
  lit "methods" ++ blanks ++ lit "=" ++ blanks
    ++ char (among ['[', '(', '\x7b'])
    ++ group .body (many (except [']', ')', '\x7d']))
    ++ char (among [']', ')', '\x7d'])

/-- A `path` or `rule` keyword before a literal. -/
def pathKeyword : Pattern :=
  wordEdge ++ anyOf ["path", "rule"] ++ blanks ++ lit "=" ++ blanks
    ++ look (opt (char (among ['r', 'b', 'u', 'f'])) ++ char (among quotes))

/-- The literal that the arguments give as the path. -/
def decoratorPath? (arguments : Text) : Option Text :=
  let literal :=
    match (markedLiteral .path).matchStart (Text.trimLeft arguments) with
    | some m => some m
    | none =>
        (pathKeyword.find? arguments).bind fun m =>
          (markedLiteral .path).matchStart m.rest
  (literal.map (·.get .path)).filter fun path => !path.isEmpty

/-- The methods that a decorator declares. -/
def decoratorMethods (called arguments : Text) : List Text :=
  if called ≠ "route".toList ∧ called ≠ "api_route".toList
    then [Text.capitals called]
  else
    let listed := match methodList.find? arguments with
      | some m =>
          ((markedLiteral .path).findAll (m.get .body)).map fun (l : Match) =>
            Text.capitals (l.get .path)
      | none => []
    match listed.filter fun verb => !verb.isEmpty with
    | [] => [anyMethod]
    | declared => declared

/-- The entry points of one line. -/
def scanDecoratorLine (location : Location) (line : Text) : List EntryPoint :=
  match decorator.matchStart line with
  | none => []
  | some m =>
    match decoratorPath? (m.get .clause) with
    | none => []
    | some path =>
      (decoratorMethods (m.get .method) (m.get .clause)).map fun verb =>
        ⟨verb, path, location⟩

/-- The entry points that a file's decorators declare. -/
def scanDecorators (f : SourceFile) (text : Text) : List EntryPoint :=
  (numberedLines text).flatMap fun (n, line) =>
    scanDecoratorLine ⟨f.path, n⟩ line

-- ========================================================== strategies

/-- A way of recognising entry points. -/
inductive Strategy where
  /-- Handlers in files called `route` under `app` or `api`. -/
  | appDirectory
  /-- Files under `pages/api`. -/
  | pagesDirectory
  /-- Registrations in scripts. -/
  | call
  /-- Decorators in Python. -/
  | decorator
  /-- Registrations in Go. -/
  | goCall
  deriving DecidableEq, Repr

namespace Strategy

/-- The language whose files are read. -/
def language : Strategy → Language
  | appDirectory => .script
  | pagesDirectory => .script
  | call => .script
  | decorator => .python
  | goCall => .go

/-- Whether a file is read. -/
def accepts (f : SourceFile) : Strategy → Bool
  | appDirectory => acceptsApp f
  | pagesDirectory => acceptsPages f
  | _ => true

/-- The entry points of a file. Only the place of a file can fail, and only
that of a file which is not accepted. -/
def scan (f : SourceFile) (text : Text) :
    Strategy → Except PlaceError (List EntryPoint)
  | appDirectory => scanApp f text
  | pagesDirectory => scanPages f
  | call => .ok (scanCalls f text)
  | decorator => .ok (scanDecorators f text)
  | goCall => .ok (scanGo f text)

end Strategy

end SourceAtlas.Route
