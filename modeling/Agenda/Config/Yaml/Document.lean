import Agenda.Config.Yaml.Lexer.Structure
import Agenda.Config.Yaml.Node

/-!
# YAML documents as layers

A text holds one document at most, whose root is a mapping. A null character ends the text.
-/

namespace Agenda.Config.Yaml

namespace Token

/-- The token is part of the directives before a document. -/
def isDirective : Token → Bool
  | version | handle .. => true
  | _ => false

/-- The meanings of handles that directives declare: each directive takes the place of those before it. The version
must not be declared twice. -/
def handles? : List Token → Option (List (String × String))
  | ts =>
    if 1 < ts.count .version then none
    else
      match ts.getLast? with
      | some (.handle name meaning) => some [(name, meaning)]
      | _ => some []

end Token

/-- What is left behind the ends of documents. -/
def skipEnds (ts : List Token) : List Token :=
  ts.dropWhile (· = .documentEnd)

/-- The root of a document without its directives and its beginning; an empty one is null. -/
def rootOf? (isBegun : Bool) (handles : List (String × String)) (ts : List Token) : Option Node :=
  if isBegun && ts.head?.all (fun t => t.isDirective || t = .documentStart || t = .documentEnd) then
    if skipEnds ts = [] then some .null else none
  else
    match Build.node (4 * ts.length + 8) true false { tokens := ts, handles } with
    | some (root, b) => if skipEnds b.tokens = [] then some root else none
    | none => none

/-- The root of the only document among tokens; without a document it is an empty mapping. -/
def Node.ofTokens? (ts : List Token) : Option Node :=
  match skipEnds ts with
  | [] => some (.mapping [])
  | ts =>
    let directives := ts.takeWhile Token.isDirective
    match directives, ts.drop directives.length with
    | ds, .documentStart :: rest => (Token.handles? ds).bind fun handles => rootOf? true handles rest
    | [], ts => rootOf? false [] ts
    | _, _ => none

/-- The entries of a text. -/
def parse (text : String) : Option (List (String × Value)) :=
  match ((Token.ofChars? (text.toList.takeWhile (· ≠ '\x00'))).bind Node.ofTokens?).bind Node.value? with
  | some (.table es) => some es
  | _ => none

end Agenda.Config.Yaml
