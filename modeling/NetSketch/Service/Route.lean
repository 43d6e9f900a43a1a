import NetSketch.Text.HexDigit
import NetSketch.Text.Piece
import NetSketch.Text.Utf8

/-!
# Routes

An address names a path, in which characters may be escaped. A path that only has slashes too many
at its end leads on to the address of the path without them.

* `pathOf`: the path that an address names; `addressOf`: an address that names a path;
* `Route`, `Route.ofPath?`: what a path leads to; `Route.ofAddress?`: what an address leads to;
* `Route.methods`: what may be done there.
-/

namespace NetSketch.Service

open Text

/-! ## Paths -/

/-- The bytes of a path in which a percent sign and two digits stand for a byte. -/
def pathBytes : List Char → List UInt8
  | '%' :: a :: b :: rest =>
    match hexDigit? a, hexDigit? b with
    | some x, some y => .ofNat (16 * x + y) :: pathBytes rest
    | _, _ => 37 :: pathBytes (a :: b :: rest)
  | c :: rest => (String.singleton c).toUTF8.toList ++ pathBytes rest
  | [] => []

/-- The steps of a path in which a single dot stays and two dots go one step back; the steps
before are the last one first. -/
def followDots (before : List String) : List String → List String
  | [] => before.reverse
  | "." :: rest => followDots before rest
  | ".." :: rest => followDots (if before = [""] then before else before.tail) rest
  | step :: rest => followDots (step :: before) rest

/-- A text in which escapes are read once. -/
def unescaped (s : String) : String := .ofList (charsOf (pathBytes s.toList))

/-- The path that an address names, without what follows it. Dots are followed before escapes are
read, which happens twice: on the side that asks and on the side that answers. -/
def pathOf (address : String) : String :=
  let cs := address.toList.takeWhile fun c => c != '?' && c != '#'
  let cs := if ['/'].isPrefixOf cs then cs else '/' :: cs
  unescaped (unescaped (String.intercalate "/" (followDots [] (splitAt (.ofList cs) '/'))))

/-- An address that names a path, by an escape for each character that would be read as more than
itself. -/
def addressOf (path : String) : String :=
  replaceChar (replaceChar (replaceChar path '%' "%25") '?' "%3F") '#' "%23"

/-- A path without the slashes at its end, if there are some. -/
def withoutSlashes? (path : String) : Option String :=
  match path.toList.reverse with
  | '/' :: back => some (.ofList (back.dropWhile (· == '/')).reverse)
  | _ => none

/-- A text without the end of its line. -/
def withoutLineEnd (s : String) : String :=
  match s.toList.reverse with
  | '\n' :: back => .ofList back.reverse
  | _ => s

/-- Steps, the last one without the end of its line. -/
def lastWithoutLineEnd : List String → List String
  | [] => []
  | [step] => [withoutLineEnd step]
  | step :: next :: rest => step :: lastWithoutLineEnd (next :: rest)

/-! ## Routes -/

/-- What a path leads to. -/
inductive Route where
  | health
  | parse
  | modify
  | risk
  | enrich
  | stats
  | templates
  | diagram (id : String)
  deriving DecidableEq, Repr

/-- A way to use a route. -/
inductive Method where
  | get
  | post
  | put
  deriving DecidableEq, Repr

/-- A name of a method in capital letters. -/
def capitals (name : String) : String := .ofList (name.toList.map Char.toUpper)

/-- The method of a name. -/
def Method.ofName? (name : String) : Option Method :=
  match capitals name with
  | "GET" => some .get
  | "POST" => some .post
  | "PUT" => some .put
  | _ => none

namespace Route

/-- What the steps of a path lead to. -/
def ofSteps? : List String → Option Route
  | ["health"] => some .health
  | ["api", "parse"] => some .parse
  | ["api", "modify"] => some .modify
  | ["api", "risk"] => some .risk
  | ["api", "knowledge", "enrich"] => some .enrich
  | ["api", "knowledge", "stats"] => some .stats
  | ["api", "templates"] => some .templates
  | ["api", "diagrams", id] => if id.isEmpty then none else some (.diagram id)
  | _ => none

/-- What a path leads to. The last step may end its line; of an id the line end is a part. -/
def ofPath? (path : String) : Option Route :=
  match path.toList with
  | '/' :: rest =>
    let steps := splitAt (.ofList rest) '/'
    (ofSteps? steps).or (ofSteps? (lastWithoutLineEnd steps))
  | _ => none

/-- What a path leads to that is led on at most so many times. -/
def ofPathWithin? : Nat → String → Option Route
  | 0, path => ofPath? path
  | most + 1, path =>
    match withoutSlashes? path with
    | none => ofPath? path
    | some path =>
      if (ofPath? path).isSome then ofPathWithin? most (pathOf (addressOf path)) else none

/-- **What an address leads to.** A path is shorter each time it is led on. -/
def ofAddress? (address : String) : Option Route :=
  let path := pathOf address
  ofPathWithin? path.length path

/-- The methods of a route. -/
def methods : Route → List Method
  | health | stats | templates => [.get]
  | parse | modify | risk | enrich => [.post]
  | diagram _ => [.get, .put]

end Route

end NetSketch.Service
