import Agenda.Http.Message
import Agenda.Text.Split

/-!
# The files of the web client

A directory is answered with its `index.html`, but only if its path ends with a slash; without the slash the
client is sent to the path with it.
-/

namespace Agenda.Http

/-- The files, each with the names on the way to it. -/
structure Site where
  files : List (List String × String)

namespace Site

/-- The file that a directory stands for. -/
def index : String := "index.html"

/-- The content type of a file name. -/
def contentType (name : String) : Option String :=
  match (Text.pieces '.' name.toList).getLast? with
  | some ['h', 't', 'm', 'l'] => some "text/html; charset=utf-8"
  | some ['j', 's'] => some "text/javascript; charset=utf-8"
  | some ['c', 's', 's'] => some "text/css; charset=utf-8"
  | _ => none

/-- The file of that path. -/
def file? (site : Site) (path : List String) : Option Response :=
  (site.files.find? (·.1 == path)).map fun (path, body) =>
    { status := 200, contentType := (path.getLast?.map contentType).join, body }

/-- Some file lies below that path. -/
def isDirectory (site : Site) (path : List String) : Bool :=
  site.files.any fun (p, _) => path.isPrefixOf p && path.length < p.length

/-- One name on the way to a file: dots mean this place and the one above. -/
def enter (up : List String) (name : String) : List String :=
  if name = "" || name = "." then up else if name = ".." then up.tail else name :: up

/-- The names on the way to a file: a decoded segment may hold separators of its own. -/
def names (segments : List String) : List String :=
  ((segments.flatMap fun s =>
    (Text.pieces '/' (s.toList.map fun c => if c = '\\' then '/' else c)).map String.ofList).foldl enter []).reverse

/-- The path ends with a slash once it is decoded. -/
def endsWithSlash (target : Target) : Bool :=
  target.endsWithSlash || target.segments.getLast?.any fun s => s.toList.getLast? == some '/'

/-- The answer to a request for a file. The top directory is found under the empty path alone, not by a way up. -/
def serve (site : Site) (target : Target) : Response :=
  let path := names target.segments
  if site.isDirectory path then
    if ¬ target.endsWithSlash && target.segments ≠ [] then .page 302
    else if path = [] && target.segments ≠ [] then .page 404
    else (site.file? (path ++ [index])).getD (.page 404)
  else if endsWithSlash target then .page 404
  else (site.file? path).getD (.page 404)

end Site

end Agenda.Http
