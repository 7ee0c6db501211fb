import PegPool.Decimal.Shortest
import PegPool.Text.Quoted
import PegPool.Value

/-!
# Documents

A document is what a parameter file holds: a tree of texts, numbers, truth
values, lists and objects. An object keeps its entries in the order in which
their names first came up, and has at most one entry of a name.
-/

namespace PegPool

/-- A tree of values. -/
inductive Document where
  | null
  | bool (value : Bool)
  | integer (value : Int)
  | float (value : Double)
  | text (value : String)
  | list (items : List Document)
  | object (entries : List (String × Document))

namespace Document

/-- What kind of value a document is. -/
def kind : Document → ValueKind
  | null => .null
  | bool _ => .bool
  | integer _ => .integer
  | float _ => .float
  | text _ => .text
  | list _ => .list
  | object _ => .object

/-! ## Entries -/

/-- The value under a name. -/
def lookup? (entries : List (String × Document)) (name : String) : Option Document :=
  entries.lookup name

/-- The entries with a value under a name: in place of the value that the name
has, or else at the end. -/
def insert (entries : List (String × Document)) (name : String) (value : Document) :
    List (String × Document) :=
  match entries with
  | [] => [(name, value)]
  | (other, old) :: rest =>
    if other = name then (name, value) :: rest else (other, old) :: insert rest name value

/-- The entry of an object under a name. -/
def get? (name : String) : Document → Option Document
  | object entries => lookup? entries name
  | _ => none

/-! ## Written form -/

mutual

/-- The written form of a value inside a list or an object, where texts stand
between quotes. -/
def showNested : Document → String
  | null => "None"
  | bool value => truthWord value
  | integer value => toString value
  | float value => value.text
  | text value => Text.quoted value
  | list items => "[" ++ showItems items ++ "]"
  | object entries => "\x7b" ++ showEntries entries ++ "\x7d"

/-- The written forms of list items, parted by commas. -/
def showItems : List Document → String
  | [] => ""
  | [item] => showNested item
  | item :: rest => showNested item ++ ", " ++ showItems rest

/-- The written forms of object entries, parted by commas. -/
def showEntries : List (String × Document) → String
  | [] => ""
  | [(name, value)] => Text.quoted name ++ ": " ++ showNested value
  | (name, value) :: rest =>
    Text.quoted name ++ ": " ++ showNested value ++ ", " ++ showEntries rest

end

/-- The written form of a document; a text stands for itself. -/
def display : Document → String
  | text value => value
  | other => showNested other

end Document

end PegPool
