import LozengeNav.Base
import LozengeNav.Data.Datum
import LozengeNav.Fault
import LozengeNav.Path

/-!
# Configuration

What a workspace sets up navigation with, and the plain data that says the same.
-/

namespace LozengeNav

/-- Where the index of the foreign code base comes from. -/
inductive Backend where
  | static
  | lsp
  deriving DecidableEq, Repr, Inhabited

inductive LogLevel where
  | debug
  | info
  | warning
  | error
  | critical
  deriving DecidableEq, Repr, Inhabited

namespace Backend

def all : List Backend :=
  [static, lsp]

def name : Backend → String
  | static => "static"
  | lsp => "lsp"

end Backend

namespace LogLevel

def all : List LogLevel :=
  [debug, info, warning, error, critical]

def name : LogLevel → String
  | debug => "DEBUG"
  | info => "INFO"
  | warning => "WARNING"
  | error => "ERROR"
  | critical => "CRITICAL"

end LogLevel

structure ServerSettings where
  command : List String := ["pyright-langserver", "--stdio"]
  timeout : Float := 10
  deriving Inhabited

structure Config where
  /-- The extension of dialect files, without the dot. -/
  extension : String := "dryck"
  backend : Backend := .static
  /-- Patterns for files that are not looked at. -/
  exclude : List String := []
  /-- Whether ignore files below the root count. -/
  nestedIgnore : Bool := false
  searchPaths : List String := []
  logLevel : LogLevel := .warning
  base : BaseClass := {}
  server : ServerSettings := {}
  deriving Inhabited

namespace Config

/-- The keys of a configuration, in order. -/
def keys : List String :=
  ["extension", "backend", "exclude", "nested_gitignore", "search_paths", "log_level", "base_class",
   "language_server"]

/-- The keys of a base class, in order. -/
def baseKeys : List String :=
  ["name", "path_marker", "root_base"]

/-- The keys of server settings, in order. -/
def serverKeys : List String :=
  ["command", "request_timeout"]

/-- The data that says the same as a configuration. -/
def data (c : Config) : Datum :=
  .table [
    ("extension", .text c.extension),
    ("backend", .text c.backend.name),
    ("exclude", .list (c.exclude.map .text)),
    ("nested_gitignore", .bool c.nestedIgnore),
    ("search_paths", .list (c.searchPaths.map .text)),
    ("log_level", .text c.logLevel.name),
    ("base_class", .table [
      ("name", .text c.base.name),
      ("path_marker", .text c.base.pathMarker),
      ("root_base", .text c.base.rootBase)]),
    ("language_server", .table [
      ("command", .list (c.server.command.map .text)),
      ("request_timeout", .float c.server.timeout)])]

/-- Replace a leading tilde by a home directory.  Other homes are not known. -/
def expandHome (home : Path) (p : Path) : Except Fault Path :=
  match p with
  | ⟨.here, part :: rest⟩ =>
    if part = "~" then .ok (home.append ⟨.here, rest⟩)
    else if part.toList.head? = some '~' then .error .noHome
    else .ok p
  | _ => .ok p

/-- The directories that modules are looked up in, relative ones below a root. -/
def resolveSearchPaths (c : Config) (home root : Path) : Except Fault (List Path) :=
  c.searchPaths.mapM fun entry => do
    return root.append (← expandHome home (Path.ofString entry))

end Config

end LozengeNav
