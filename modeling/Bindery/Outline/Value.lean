import Bindery.Outline
import Bindery.Value

/-!
# Outlines as values

How a page sees the outline of its table of contents.
-/

namespace Bindery
namespace Outline

mutual

/-- A node of an outline as a value. -/
def Item.toValue : Item → Value
  | .text s => .object [("type", .string "text"), ("text", .string s)]
  | .list body => .object [("type", .string "list"), ("content", body.toValue)]
  | .element name attributes body =>
    .object [("type", .string "element"), ("tag", .string name),
      ("attrs", .array (attributes.map fun (key, value) => .array [.string key, .string value])),
      ("content", body.toValue)]
  | .entry e => .object (("type", .string "entry") :: e.fields)

/-- The body of an element as a value. -/
def Body.toValue : Body → Value
  | .html s => .object [("html", .string s)]
  | .items items => .object [("children", .array (itemValues items))]

/-- Some nodes as values. -/
def itemValues : List Item → List Value
  | [] => []
  | item :: rest => item.toValue :: itemValues rest

/-- The fields of an entry. -/
def Entry.fields : Entry → List (String × Value)
  | .mk titleText url title children =>
    [("titleText", .string titleText), ("url", Value.ofString? url),
      ("title", .array (itemValues title)), ("children", .array (entryValues children))]

/-- Some entries as values. -/
def entryValues : List Entry → List Value
  | [] => []
  | e :: rest => .object e.fields :: entryValues rest

end

/-- A step on the way to an entry as a value. -/
def Crumb.toValue (c : Crumb) : Value :=
  .object [("title", .string c.title), ("url", Value.ofString? c.url)]

/-- The ways to the entries of each link target as a value. -/
def crumbsValue (found : Breadcrumbs) : Value :=
  .object (found.map fun (url, trails) =>
    (url, .array (trails.map fun trail => .array (trail.map Crumb.toValue))))

end Outline
end Bindery
