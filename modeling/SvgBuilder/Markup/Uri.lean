/-!
# References to resources

A namespace is named by a reference to a resource: an optional scheme, an optional authority, a
path, an optional query and an optional fragment.  All of it is ASCII, and everything outside a
few sets of characters is written as a percent sign and two hexadecimal digits.

A reader for a part takes it off the text that is left, and fails if the part is not there.

## Main definitions

* `isUriReference`: whether a text is a reference to a resource.
-/

namespace SvgBuilder.Markup

/-- A hexadecimal digit in either case. -/
def isHex (c : Char) : Bool :=
  ('0' ≤ c && c ≤ '9') || ('a' ≤ c && c ≤ 'f') || ('A' ≤ c && c ≤ 'F')

/-- Letters, digits, unreserved marks and delimiters of parts. -/
def isUriChar (c : Char) : Bool := c.isAlphanum || c ∈ "-._~!$&()*+,;=\x27".toList

/-- Characters of a path segment. -/
def isSegmentChar (c : Char) : Bool := isUriChar c || c = ':' || c = '@'

/-- Characters of a path. -/
def isPathChar (c : Char) : Bool := isSegmentChar c || c = '/'

/-- Characters of a query. -/
def isQueryChar (c : Char) : Bool := isPathChar c || c = '?'

/-- Characters of a fragment. -/
def isFragmentChar (c : Char) : Bool := isQueryChar c || c = '[' || c = ']'

/-- The text behind the characters that it begins with and that are allowed or are escapes. -/
def skipEscaped (allowed : Char → Bool) : List Char → List Char
  | '%' :: a :: b :: s =>
    if isHex a && isHex b then skipEscaped allowed s else '%' :: a :: b :: s
  | c :: s => if c ≠ '%' ∧ allowed c then skipEscaped allowed s else c :: s
  | [] => []

/-! ## Authorities -/

/-- The text behind a number up to 255 in decimal. -/
def skipOctet? : List Char → Option (List Char)
  | a :: s =>
    if !a.isDigit then none
    else
      match s with
      | b :: c :: t =>
        if !b.isDigit then some s
        else if !c.isDigit then if a = '0' then none else some (c :: t)
        else if a = '1' ∨ (a = '2' ∧ b ≤ '5') then some t
        else none
      | [b] => if !b.isDigit then some [b] else if a = '0' then none else some []
      | [] => some []
  | [] => none

/-- The text behind a point. -/
def skipPoint? : List Char → Option (List Char)
  | '.' :: s => some s
  | _ => none

/-- The text behind four numbers with points between them. -/
def skipAddress? (s : List Char) : Option (List Char) := do
  let s ← (skipOctet? s).bind skipPoint?
  let s ← (skipOctet? s).bind skipPoint?
  let s ← (skipOctet? s).bind skipPoint?
  skipOctet? s

/-- The text behind a host: an address in brackets or of four numbers, or a name, which may be
empty. -/
def skipHost? : List Char → Option (List Char)
  | '[' :: s =>
    match s.dropWhile (· ≠ ']') with
    | [] => none
    | _ :: rest => some rest
  | s => some ((skipAddress? s).getD (skipEscaped isUriChar s))

/-- The highest port. -/
def maxPort : Nat := 2147483647

/-- The text behind a port, if one begins here. -/
def skipPort? : List Char → Option (List Char)
  | ':' :: s =>
    let digits := s.takeWhile (·.isDigit)
    let port := digits.foldl (fun n c => n * 10 + (c.toNat - 48)) 0
    if digits.isEmpty ∨ maxPort < port then none else some (s.dropWhile (·.isDigit))
  | s => some s

/-- The text behind an authority: a host after an optional user, with an optional port. -/
def skipAuthority? (s : List Char) : Option (List Char) :=
  let host := match skipEscaped (fun c => isUriChar c || c = ':') s with
    | '@' :: rest => rest
    | _ => s
  (skipHost? host).bind skipPort?

/-! ## References -/

/-- The text behind a path that is empty or begins with a slash. -/
def skipPath : List Char → List Char
  | '/' :: s => skipEscaped isPathChar s
  | s => s

/-- The text behind an authority and a path, or behind a path of which the first segment is made
of the given characters. -/
def skipHierarchy? (first : Char → Bool) : List Char → Option (List Char)
  | '/' :: '/' :: s => (skipAuthority? s).map skipPath
  | s => some (skipPath (skipEscaped first s))

/-- The text behind an optional part that a mark begins. -/
def skipPart (mark : Char) (allowed : Char → Bool) : List Char → List Char
  | c :: s => if c = mark then skipEscaped allowed s else c :: s
  | [] => []

/-- Whether nothing but a query and a fragment is left. -/
def endsBehind (rest : Option (List Char)) : Bool :=
  match rest with
  | some s => (skipPart '#' isFragmentChar (skipPart '?' isQueryChar s)).isEmpty
  | none => false

/-- A reference that begins with a scheme: a letter, then letters, digits, plus signs, hyphens and
points, and a colon. -/
def isAbsoluteUri : List Char → Bool
  | [] => false
  | c :: s =>
    c.isAlpha &&
      match s.dropWhile fun d => d.isAlphanum || d = '+' || d = '-' || d = '.' with
      | ':' :: t => endsBehind (skipHierarchy? isSegmentChar t)
      | _ => false

/-- A reference without a scheme. -/
def isRelativeUri (s : List Char) : Bool :=
  endsBehind (skipHierarchy? (fun c => isSegmentChar c && c ≠ ':') s)

/-- A reference to a resource. -/
def isUriReference (s : List Char) : Bool := isAbsoluteUri s || isRelativeUri s

end SvgBuilder.Markup
