import BlockVolume.Text.Blank
import BlockVolume.Text.Percent
/-!
Request targets: the path and query that a client asks for when it is given a URL.

Line breaks and tabs are left out, dots among the segments are resolved, and what may not stand in a
path or query is percent-encoded. Escapes that stand there already are kept.
-/

namespace BlockVolume.Http

open BlockVolume.Text

/-- Encodes the characters that `keep` does not let stand. -/
def encodeWhere (keep : Char → Bool) (cs : List Char) : List Char :=
  cs.flatMap fun c => if keep c then [c] else (String.utf8EncodeChar c).flatMap Percent.escape

/-- Printable ASCII other than the given characters. -/
def isPlain (except : String) (c : Char) : Bool :=
  0x20 < c.toNat && c.toNat < 0x7F && !except.toList.contains c

/-- What stands as it is in a path segment. -/
def isPathChar : Char → Bool := isPlain "\"<>\x60#?\x7b\x7d"

/-- What stands as it is in a query. -/
def isQueryChar : Char → Bool := isPlain "\"<>#'"

/-- A segment with its escaped dots read, in lower case. -/
def plainDots (segment : List Char) : List Char :=
  match segment with
  | '%' :: '2' :: e :: rest =>
    if e = 'e' ∨ e = 'E' then '.' :: plainDots rest else '%' :: '2' :: plainDots (e :: rest)
  | c :: rest => c :: plainDots rest
  | [] => []

/-- Resolves dots among segments; `done` are the segments before, the last one first. A dot at the
end leaves an empty segment. -/
def resolveDots : (done : List (List Char)) → List (List Char) → List (List Char)
  | done, [] => done.reverse
  | done, segment :: rest =>
    let dots := plainDots segment
    if dots = ['.', '.'] then
      resolveDots (if rest.isEmpty then [] :: done.drop 1 else done.drop 1) rest
    else if dots = ['.'] then resolveDots (if rest.isEmpty then [] :: done else done) rest
    else resolveDots (segment :: done) rest

/-- What a client leaves out of a URL: blanks and controls at the ends, tabs and line breaks inside,
and the fragment. -/
def tidy (url : List Char) : List Char :=
  let isEdge := fun c : Char => c.toNat ≤ 0x20
  let inner := ((url.dropWhile isEdge).reverse.dropWhile isEdge).reverse
  (inner.filter fun c => c != '\t' && c != '\n' && c != '\r').takeWhile (· != '#')

/-- What follows the authority of a URL. -/
def afterAuthority : List Char → List Char
  | ':' :: '/' :: '/' :: rest => rest.dropWhile fun c => c != '/' && c != '\\' && c != '?'
  | _ :: rest => afterAuthority rest
  | [] => []

/-- The target of a request for a URL. -/
def requestTarget (url : String) : String :=
  let place := afterAuthority (tidy url.toList)
  let isSlash := fun c : Char => c == '/' || c == '\\'
  let path := place.takeWhile (· != '?')
  let query := place.dropWhile (· != '?')
  let segments := (splitOnP isSlash (if path.isEmpty then ['/'] else path)).drop 1
  let clean := (resolveDots [] segments).map (encodeWhere isPathChar)
  String.ofList (clean.flatMap ('/' :: ·) ++
    match query with
    | [] => []
    | _ :: query => '?' :: encodeWhere isQueryChar query)

end BlockVolume.Http
