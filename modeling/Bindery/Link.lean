/-!
# Links and requests

Which links name a file of the content tree, the request that such a link makes, and the id that
a request made by a module leads to. Ids are paths below the content directory with `/` between
their segments.
-/

namespace Bindery
namespace Link

/-- Letters of ASCII. -/
def isLetter (c : Char) : Bool := c.isAlpha

/-- Whether a link starts with a scheme such as `http:`. -/
def isExternal (link : String) : Bool :=
  let chars := link.toList
  let scheme := chars.takeWhile (· ≠ ':')
  chars.contains ':' && (scheme.head?.any isLetter)
    && scheme.all fun c => c.isAlphanum || c = '+' || c = '-' || c = '.'

/-- Whether a link starts with a drive such as `C:/`. -/
def hasDrive (link : String) : Bool :=
  match link.toList with
  | c :: ':' :: mark :: _ => isLetter c && (mark = '\\' || mark = '/')
  | _ => false

/-- Characters that start no request: fragments, placeholders and template punctuation. -/
def nonRequestStarts : List Char :=
  ['\x7b', '\x7d', '[', ']', '#', '*', ';', ',', '\'', '§', '$', '%', '&', '(', '=', '?', '\x60',
    '´', '^', '°', '<', '>']

/-- Whether a link can name a file of the content tree. -/
def isRequest (link : String) : Bool :=
  match link.toList with
  | [] => false
  | first :: _ =>
    !(isExternal link && !hasDrive link) && first ≠ '/' && !nonRequestStarts.contains first

/-- The request that a link makes: `~name` asks for `name`, and a plain path is relative. -/
def toRequest (link : String) : String :=
  match link.toList with
  | '~' :: rest => String.ofList rest
  | '.' :: '/' :: _ => link
  | '.' :: '.' :: '/' :: _ => link
  | _ => "./" ++ link

/-- Cut characters at a separator; there is always at least one part. -/
def splitOn (separator : Char) : List Char → List (List Char)
  | [] => [[]]
  | c :: rest =>
    if c = separator then [] :: splitOn separator rest
    else
      match splitOn separator rest with
      | part :: parts => (c :: part) :: parts
      | [] => [[c]]

/-- The segments of a path. -/
def segments (path : String) : List String :=
  (splitOn '/' path.toList).map String.ofList

/-- Walk segments from a place, given as the segments from the root with the last one first; none
if a step climbs above the root. -/
def walk (place : List String) : List String → Option (List String)
  | [] => some place
  | segment :: rest =>
    if segment = "" || segment = "." then walk place rest
    else if segment = ".." then
      match place with
      | [] => none
      | _ :: parent => walk parent rest
    else walk (segment :: place) rest

/-- The directory of a module as a place. -/
def directory (module : String) : List String := (segments module).reverse.drop 1

/-- The id that a request of a module leads to; none if it climbs above the root or ends there. A
request that starts with `/` starts at the root. -/
def resolve (module request : String) : Option String :=
  let start := if request.startsWith "/" then [] else directory module
  match walk start (segments request) with
  | none => none
  | some [] => none
  | some place => some ("/".intercalate place.reverse)

/-- The path below the output directory that a url stands for; none for one that has a drive or a
backslash, climbs out of the output or leads nowhere. -/
def normalize (url : String) : Option String :=
  if hasDrive url || url.contains '\\' then none else resolve "" ("/" ++ url)

end Link
end Bindery
