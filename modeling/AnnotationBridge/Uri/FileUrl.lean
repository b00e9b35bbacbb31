import AnnotationBridge.Uri.Host
import AnnotationBridge.Uri.Reference

/-!
# File URLs

The path that a `file` URL names, and the URL of a path. Reading follows the URL standard: the host
must be absent or this machine, dot segments are resolved before escapes are, a query and a fragment
are passed over, and a segment that looks like a drive letter is never taken back by `..`.

* `FileUrl.path?`: the path that a URI names.
* `FileUrl.ofPath`: the text of the URL of an absolute path.
* `fileUri`: that text as a URI.
-/

namespace AnnotationBridge

namespace FileUrl

/-! ### Segments -/

/-- Whether a segment is a letter with `:` or `|` after it. -/
def isDriveLetter : List Char → Bool
  | [c, mark] => c.isAlpha && (mark == ':' || mark == '|')
  | _ => false

/-- A full stop, plain or escaped, at the start of a segment, and the rest of the segment. -/
def dotThen? : List Char → Option (List Char)
  | '.' :: rest => some rest
  | '%' :: '2' :: 'e' :: rest => some rest
  | '%' :: '2' :: 'E' :: rest => some rest
  | _ => none

/-- Whether a segment stands for its own directory. -/
def isSingleDot (segment : List Char) : Bool :=
  dotThen? segment == some []

/-- Whether a segment stands for the directory above. -/
def isDoubleDot (segment : List Char) : Bool :=
  (dotThen? segment).bind dotThen? == some []

/-- The segments read so far, last first, after a step up. -/
def stepUp : List (List Char) → List (List Char)
  | [] => []
  | last :: before => if isDriveLetter last then last :: before else before

/-- Resolves the dot segments of a path. `done` holds the segments read so far, last first. A dot
segment at the end leaves an empty segment behind. -/
def resolveDots (done : List (List Char)) : List (List Char) → List (List Char)
  | [] => done.reverse
  | segment :: rest =>
    let ends := rest.isEmpty
    if isDoubleDot segment then
      resolveDots (if ends then [] :: stepUp done else stepUp done) rest
    else if isSingleDot segment then
      resolveDots (if ends then [] :: done else done) rest
    else resolveDots (segment :: done) rest

/-- The segments of a path after its leading separators have been made one. -/
def normalSegments (segments : List (List Char)) : List (List Char) :=
  match (resolveDots [] segments).dropWhile (· == []) with
  | [] => [[]]
  | kept => kept

/-! ### Reading -/

/-- The bytes of a path with the given segments. A drive letter at its end gets a separator. -/
def pathBytes (segments : List (List Char)) : List UInt8 :=
  let bytes := segments.flatMap fun segment => slash :: Percent.decode segment
  match bytes.reverse with
  | mark :: letter :: _ :: _ =>
    if (mark == 0x3A || mark == 0x7C) && (Char.ofNat letter.toNat).isAlpha then bytes ++ [slash]
    else bytes
  | _ => bytes

/-- The path that stands in the segments of a URL, whatever its host. -/
def pathOfSegments (segments : List (List Char)) : Path :=
  ⟨pathBytes (normalSegments segments)⟩

/-- The path named by what follows `file:` in a URL, up to the query. Another machine
is dropped before a drive letter and names no file otherwise. -/
def pathAfterScheme? (cs : List Char) : Option Path :=
  match cs with
  | '/' :: '/' :: rest =>
    let (host, path) := Reference.cutAt (· == '/') rest
    if isDriveLetter host then some (pathOfSegments (Reference.splitAtChar '/' rest))
    else
      let segments := Reference.splitAtChar '/' path.tail
      match Host.ofChars host with
      | .here => some (pathOfSegments segments)
      | .malformed => none
      | .elsewhere =>
        if ((resolveDots [] segments).head?.map isDriveLetter).getD false then
          some (pathOfSegments segments)
        else none
  | '/' :: rest => some (pathOfSegments (Reference.splitAtChar '/' rest))
  | _ => some (pathOfSegments (Reference.splitAtChar '/' cs))

/-- The path that a URI names, if it is a `file` URL of this machine. -/
def path? (u : Uri) : Option Path :=
  match Reference.scheme? u.text.toList with
  | none => none
  | some (scheme, rest) =>
    if scheme.map Char.toLower = "file".toList then
      pathAfterScheme? (Reference.cutAt (fun c => c == '?' || c == '#') rest).1
    else none

/-! ### Writing -/

/-- The bytes that stand for themselves in a segment of a file URL. -/
def isPlain (b : UInt8) : Bool :=
  0x20 < b && b < 0x7F && !("\"#<>`?\x7b\x7d/%\\".toList.any fun c => c.toNat == b.toNat)

/-- The text of the URL of an absolute path: one escaped segment for each component. -/
def ofPath (p : Path) : List Char :=
  let segments := p.components.drop 1
  "file://".toList ++
    (if segments.isEmpty then ['/']
    else segments.flatMap fun part => '/' :: Percent.encode isPlain part.bytes)

end FileUrl

/-- Why a path has no URI. -/
inductive FileUriError where
  | relative (path : Path)
  | illFormed (text : String)
  deriving DecidableEq, Repr

/-- The path or the text that is at fault. -/
def FileUriError.subject : FileUriError → String
  | .relative path => path.display
  | .illFormed text => text

/-- The URI of an absolute path. Some bytes that a URL leaves as they are, such as brackets, have no
place in a URI, and a path with them is refused. -/
def fileUri (p : Path) : Except FileUriError Uri :=
  if p.isAbsolute then
    match Uri.ofString? (String.ofList (FileUrl.ofPath p)) with
    | some u => .ok u
    | none => .error (.illFormed (String.ofList (FileUrl.ofPath p)))
  else .error (.relative p)

end AnnotationBridge
