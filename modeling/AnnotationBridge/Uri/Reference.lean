import AnnotationBridge.Uri.Percent

/-!
# URI references

`Reference.accepts` holds of the URI references of RFC 3986, a URI or a relative reference, in
ASCII, with complete escapes, brackets around an IPv6 address only, and no colon in the first
segment of a reference without a scheme.

* `Reference.accepts`: the grammar.
* `Uri`: a text that satisfies it.
-/

namespace AnnotationBridge

namespace Reference

/-! ### Characters -/

/-- Letters and digits of ASCII. -/
def isAlphanumeric (c : Char) : Bool :=
  c.isAlpha || c.isDigit

/-- The characters of a scheme after its first letter. -/
def isSchemeChar (c : Char) : Bool :=
  isAlphanumeric c || c == '+' || c == '-' || c == '.'

/-- Characters that never have a meaning of their own. -/
def isUnreserved (c : Char) : Bool :=
  isAlphanumeric c || c == '-' || c == '.' || c == '_' || c == '~'

/-- Delimiters inside a component. -/
def isSubDelimiter (c : Char) : Bool :=
  "!$&'()*+,;=".toList.contains c

/-- Characters of a registered host name. -/
def isHostChar (c : Char) : Bool :=
  isUnreserved c || isSubDelimiter c

/-- Characters of the user information. -/
def isUserChar (c : Char) : Bool :=
  isHostChar c || c == ':'

/-- Characters of a path. -/
def isPathChar (c : Char) : Bool :=
  isUserChar c || c == '@' || c == '/'

/-- Characters of a query or a fragment. -/
def isQueryChar (c : Char) : Bool :=
  isPathChar c || c == '?'

/-! ### Runs -/

/-- The rest after the longest run of allowed characters and escapes, or `none` if an escape is
incomplete. -/
def skip (allowed : Char → Bool) : List Char → Option (List Char)
  | [] => some []
  | '%' :: h :: l :: rest =>
    if (Percent.hexValue? h).isSome && (Percent.hexValue? l).isSome then skip allowed rest else none
  | c :: rest =>
    if c == '%' then none
    else if allowed c then skip allowed rest
    else some (c :: rest)

/-- Whether a text is one run of allowed characters and escapes. -/
def isRun (allowed : Char → Bool) (cs : List Char) : Bool :=
  skip allowed cs == some []

/-- The part of a text before the first character that satisfies `stop`, and the part from there. -/
def cutAt (stop : Char → Bool) (cs : List Char) : List Char × List Char :=
  (cs.takeWhile (!stop ·), cs.dropWhile (!stop ·))

/-- A text that is cut is made of both parts. -/
theorem cutAt_append (stop : Char → Bool) (cs : List Char) :
    (cutAt stop cs).1 ++ (cutAt stop cs).2 = cs :=
  List.takeWhile_append_dropWhile

/-- What is cut off begins with a character at which to stop. -/
theorem stop_of_cutAt (stop : Char → Bool) {cs back : List Char} {c : Char}
    (h : (cutAt stop cs).2 = c :: back) : stop c = true := by
  have hhead := List.head?_dropWhile_not (!stop ·) cs
  rw [show cs.dropWhile (!stop ·) = c :: back from h] at hhead
  simpa using hhead

/-! ### Hosts -/

/-- The pieces between separators. -/
def splitAtChar (sep : Char) : List Char → List (List Char)
  | [] => [[]]
  | c :: rest =>
    if c = sep then [] :: splitAtChar sep rest
    else match splitAtChar sep rest with
      | [] => [[c]]
      | piece :: pieces => (c :: piece) :: pieces

/-- Whether a text is a number up to 255 without leading zeros. -/
def isOctet (cs : List Char) : Bool :=
  cs ≠ [] && cs.all Char.isDigit && cs.length ≤ 3 && (cs.length == 1 || cs.head? != some '0')
    && cs.foldl (fun n c => n * 10 + (c.toNat - 0x30)) 0 ≤ 255

/-- Whether a text is an IPv4 address. -/
def isIpv4 (cs : List Char) : Bool :=
  let parts := splitAtChar '.' cs
  parts.length == 4 && parts.all isOctet

/-- Whether a text is a group of an IPv6 address: one to four hexadecimal digits. -/
def isGroup (cs : List Char) : Bool :=
  cs ≠ [] && cs.length ≤ 4 && cs.all (Percent.hexValue? · |>.isSome)

/-- The number of groups that colon-separated pieces stand for; the last may be an IPv4 address,
which stands for two. -/
def groupCount : List (List Char) → Option Nat
  | [] => some 0
  | [piece] => if isGroup piece then some 1 else if isIpv4 piece then some 2 else none
  | piece :: next :: rest => if isGroup piece then (groupCount (next :: rest)).map (· + 1) else none

/-- The groups of one side of a `::`, or of a whole address without one. -/
def sideCount (cs : List Char) : Option Nat :=
  if cs = [] then some 0 else groupCount (splitAtChar ':' cs)

/-- The parts before and after the first `::`. -/
def cutAtDoubleColon : List Char → Option (List Char × List Char)
  | ':' :: ':' :: rest => some ([], rest)
  | c :: rest => (cutAtDoubleColon rest).map fun (before, after) => (c :: before, after)
  | [] => none

/-- Whether a text is an IPv6 address. A `::` stands for one group or more, and an IPv4 address may
only come last. -/
def isIpv6 (cs : List Char) : Bool :=
  match cutAtDoubleColon cs with
  | none => groupCount (splitAtChar ':' cs) == some 8
  | some (before, after) =>
    match sideCount before, sideCount after with
    | some m, some n => m + n < 8 && !before.contains '.'
    | _, _ => false

/-- Whether a text is a host, with or without a number after a colon. -/
def isHostWithNumber (cs : List Char) : Bool :=
  match cs with
  | '[' :: rest =>
    let (address, after) := cutAt (· == ']') rest
    isIpv6 address &&
      match after with
      | [']'] => true
      | ']' :: ':' :: number => number.all Char.isDigit
      | _ => false
  | _ =>
    match cutAt (· == ':') cs with
    | (host, []) => isRun isHostChar host
    | (host, _ :: number) => isRun isHostChar host && number.all Char.isDigit

/-- Whether a text is an authority: user information before an `@`, then a host with an
optional number. -/
def isAuthority (cs : List Char) : Bool :=
  match cutAt (· == '@') cs with
  | (_, []) => isHostWithNumber cs
  | (user, _ :: host) => isRun isUserChar user && isHostWithNumber host

/-! ### References -/

/-- Whether a text is what may follow a path: a query, a fragment, both or nothing. -/
def isTail (cs : List Char) : Bool :=
  let (query, fragment) := cutAt (· == '#') cs
  (match query with
    | [] => true
    | '?' :: rest => isRun isQueryChar rest
    | _ => false) &&
  isRun isQueryChar fragment.tail

/-- Whether a text is a path and what may follow it. -/
def isPathAndTail (cs : List Char) : Bool :=
  let (path, tail) := cutAt (fun c => c == '?' || c == '#') cs
  isRun isPathChar path && isTail tail

/-- Whether a text is what may follow a scheme, or a reference without one whose first segment has
no colon. -/
def isHierarchy (cs : List Char) : Bool :=
  match cs with
  | '/' :: '/' :: rest =>
    let (authority, after) := cutAt (fun c => c == '/' || c == '?' || c == '#') rest
    isAuthority authority && isPathAndTail after
  | _ => isPathAndTail cs

/-- The scheme of a text, and what follows its colon. -/
def scheme? (cs : List Char) : Option (List Char × List Char) :=
  match cutAt (fun c => !isSchemeChar c) cs with
  | (scheme, ':' :: rest) => some (scheme, rest)
  | _ => none

/-- Whether a text is a URI reference. -/
def accepts (cs : List Char) : Bool :=
  match scheme? cs with
  | some (scheme, rest) => (scheme.head?.map Char.isAlpha).getD false && isHierarchy rest
  | none =>
    let (segment, _) := cutAt (fun c => c == '/' || c == '?' || c == '#') cs
    !segment.contains ':' && isHierarchy cs

end Reference

/-- A URI reference. Two are equal if they are spelled alike. -/
structure Uri where
  text : String
  valid : Reference.accepts text.toList = true
  deriving DecidableEq

namespace Uri

/-- The reference that a text spells. -/
def ofString? (s : String) : Option Uri :=
  if h : Reference.accepts s.toList = true then some ⟨s, h⟩ else none

/-- The text of a URI is a URI. -/
theorem ofString?_text (u : Uri) : ofString? u.text = some u := by
  simp [ofString?, u.valid]

/-- A URI is read from its own text only. -/
theorem ofString?_eq_some_iff {s : String} {u : Uri} : ofString? s = some u ↔ u.text = s := by
  constructor
  · intro h
    unfold ofString? at h
    split at h
    · cases h; rfl
    · cases h
  · rintro rfl
    exact ofString?_text u

/-- The empty reference. -/
def empty : Uri :=
  ⟨"", by decide⟩

/-- The empty reference is at hand. -/
instance : Inhabited Uri := ⟨empty⟩

end Uri

end AnnotationBridge
