import MetaSchema.Xml.Content
import MetaSchema.Xml.Token

/-!
# Document trees

A document as a tree of elements and text, with namespaces resolved.

* `ExpandedName`, `Pair`, `Node`, `Element`: the tree. Comments and instructions are not kept, but
  divide the text around them.
* `Builder`: the open elements and what is known of the start tag being read.
* `Builder.add`: one more token.
* `Document.root?`: the root element of a text with at most `limit` nodes.

The document itself, every element, text, comment and instruction counts as a node.
-/

namespace MetaSchema.Xml

/-- A local name with the namespace it belongs to, if any. -/
structure ExpandedName where
  uri : Option String
  base : String
deriving DecidableEq, Repr

/-- An attribute of an element. -/
structure Pair where
  name : ExpandedName
  value : String
deriving DecidableEq, Repr

inductive Node where
  | element (name : ExpandedName) (pairs : List Pair) (children : List Node) (place : Place)
  | text (content : String) (place : Place)
deriving Repr

structure Element where
  name : ExpandedName
  pairs : List Pair
  children : List Node
  place : Place
deriving Repr

def Element.toNode (e : Element) : Node := .element e.name e.pairs e.children e.place

/-! ## Namespaces -/

/-- The namespace of the prefix `xml`, which needs no declaration. -/
def xmlUri : String := "http://www.w3.org/XML/1998/namespace"

/-- The namespace of namespace declarations. -/
def xmlnsUri : String := "http://www.w3.org/2000/xmlns/"

/-- A declared namespace; the default one has no name. -/
structure Binding where
  name : Option String
  uri : String
deriving DecidableEq, Repr

/-- The namespace that the first of these declarations of a name gives it. -/
def uriOf? (scope : List Binding) (name : Option String) : Option String :=
  (scope.find? (·.name = name)).map Binding.uri

/-- The declarations of a start tag, with those around it that it does not replace. -/
def scopeWithin (outer declared : List Binding) : List Binding :=
  declared ++ outer.filter fun b => declared.all (·.name ≠ b.name)

/-- The namespace of a qualified name that stands at a place. -/
def uriFor (scope : List Binding) (qualifier : String) (place : Place) :
    Except Error (Option String) :=
  if qualifier = "" then .ok (uriOf? scope none)
  else
    match uriOf? scope (some qualifier) with
    | some uri => .ok (some uri)
    | none => .error (.unknownNamespace qualifier place)

/-! ## Start tags -/

/-- An attribute whose namespace is not resolved yet. -/
structure OpenPair where
  name : QName
  value : String
  place : Place
deriving Repr

/-- A start tag as far as it was read. -/
structure Tag where
  name : QName
  place : Place
  declared : List Binding
  pairs : List OpenPair
deriving Repr

/-- Adds the declaration of a named namespace to a tag. How many different namespaces a document
declares is not counted: a bound on that number (65,536) is left out here. -/
def Tag.declareNamed (t : Tag) (name uri : String) (place : Place) : Except Error Tag :=
  if uri = xmlnsUri then .error (.xmlnsUriDeclared place)
  else if name = "xml" ∧ uri ≠ xmlUri then .error (.xmlPrefixRebound place)
  else if name ≠ "xml" ∧ uri = xmlUri then .error (.xmlUriElsewhere place)
  else if t.declared.any (·.name = some name) then .error (.duplicateNamespace name place)
  else if uri = xmlUri then .ok t
  else .ok { t with declared := t.declared ++ [⟨some name, uri⟩] }

/-- Adds the declaration of the default namespace to a tag. As in `declareNamed`, the number of
different declarations in a document has no bound. -/
def Tag.declareDefault (t : Tag) (uri : String) (place : Place) : Except Error Tag :=
  if uri = xmlUri then .error (.xmlUriElsewhere place)
  else if uri = xmlnsUri then .error (.xmlnsUriDeclared place)
  else .ok { t with declared := t.declared ++ [⟨none, uri⟩] }

/-- Adds an attribute to a tag; declarations of namespaces are kept apart. -/
def Tag.addPair (t : Tag) (name : QName) (value : String) (place : Place) : Except Error Tag :=
  if name.qualifier = "xmlns" then t.declareNamed name.base value place
  else if name.base = "xmlns" then t.declareDefault value place
  else .ok { t with pairs := t.pairs ++ [⟨name, value, place⟩] }

/-- The attribute's name with its namespace. An attribute without a prefix has none. -/
def OpenPair.expand (scope : List Binding) (p : OpenPair) : Except Error ExpandedName :=
  if p.name.qualifier = "xml" then .ok ⟨some xmlUri, p.name.base⟩
  else if p.name.qualifier = "" then .ok ⟨none, p.name.base⟩
  else (uriFor scope p.name.qualifier p.place).map (⟨·, p.name.base⟩)

/-- Resolves one more attribute; no two may have the same expanded name. -/
def resolvePair (scope : List Binding) (done : List Pair) (p : OpenPair) :
    Except Error (List Pair) := do
  let name ← p.expand scope
  if done.any (·.name = name) then .error (.duplicateAttribute p.name.base p.place)
  else return done ++ [⟨name, p.value⟩]

/-! ## Building the tree -/

/-- An open element: what is known of it, with its children so far in reverse. -/
structure Frame where
  written : QName
  name : ExpandedName
  pairs : List Pair
  scope : List Binding
  children : List Node
  place : Place
deriving Repr

def Frame.add (f : Frame) (n : Node) : Frame := { f with children := n :: f.children }

/-- The element of a frame, closed. -/
def Frame.element (f : Frame) : Element := ⟨f.name, f.pairs, f.children.reverse, f.place⟩

structure Builder where
  /-- The open elements, innermost first. -/
  frames : List Frame
  /-- The start tag that is being read. -/
  tag : Option Tag
  /-- The root element, once it is closed. -/
  root : Option Element
  /-- The number of nodes so far. -/
  nodes : Nat
  /-- Whether the last thing added was text. -/
  afterText : Bool
deriving Repr

namespace Builder

/-- A document without content. -/
def start : Builder := ⟨[], none, none, 1, false⟩

/-- Counts one more node. -/
def grow (limit : Nat) (b : Builder) : Except Error Builder :=
  if limit ≤ b.nodes then .error .tooManyNodes else .ok { b with nodes := b.nodes + 1 }

/-- The namespaces in scope. -/
def scope (b : Builder) : List Binding := (b.frames.head?.map Frame.scope).getD []

/-- Adds a closed element to the innermost open one; without one it is the root. -/
def addElement (b : Builder) (e : Element) : Builder :=
  match b.frames with
  | [] => { b with root := some e }
  | f :: fs => { b with frames := f.add e.toNode :: fs }

/-- Adds text to the innermost open element, to its last text if nothing stands between. -/
def addText (limit : Nat) (b : Builder) (content : List Char) (place : Place) :
    Except Error Builder :=
  match b.frames with
  | [] => .ok b
  | f :: fs =>
    match b.afterText, f.children with
    | true, .text before start :: children =>
      let text := .text (before ++ String.ofList content) start
      .ok { b with frames := { f with children := text :: children } :: fs }
    | _, _ => do
      let b ← b.grow limit
      return { b with
        frames := f.add (.text (String.ofList content) place) :: fs
        afterText := true }

/-- Ends the start tag: its names are resolved and the element is opened, or added at once. -/
def endTag (limit : Nat) (b : Builder) (closed : Bool) : Except Error Builder :=
  match b.tag with
  | none => .ok b
  | some t => do
    let scope := scopeWithin b.scope t.declared
    let pairs ← t.pairs.foldlM (resolvePair scope) []
    let uri ← uriFor scope t.name.qualifier (t.place.after '<')
    let b ← b.grow limit
    let b := { b with tag := none, afterText := false }
    let f : Frame := ⟨t.name, ⟨uri, t.name.base⟩, pairs, scope, [], t.place⟩
    return if closed then b.addElement f.element else { b with frames := f :: b.frames }

/-- Closes the innermost open element, which must have been opened under the same name. -/
def close (b : Builder) (name : QName) (place : Place) : Except Error Builder :=
  match b.frames with
  | [] => .ok b
  | f :: fs =>
    if name = f.written then
      .ok ({ b with frames := fs, afterText := false }.addElement f.element)
    else .error (.unexpectedClose f.written.text name.text place)

/-- Adds a token to the document. -/
def add (limit : Nat) (b : Builder) : Token → Except Error Builder
  | .aside => ({ b with afterText := false } : Builder).grow limit
  | .tagStart name place =>
    if name.qualifier = "xmlns" then .error (.xmlnsElement (place.after '<'))
    else .ok { b with tag := some ⟨name, place, [], []⟩, afterText := false }
  | .pair name raw place valuePlace => do
    let ps ← pieces valuePlace raw
    match b.tag with
    | none => .ok b
    | some t =>
      let t ← t.addPair name (String.ofList (spaced ps)) place
      return { b with tag := some t }
  | .tagEnd closed => b.endTag limit closed
  | .close name place => b.close name place
  | .text raw place => do
    let ps ← pieces place raw
    b.addText limit (lineEnds ps) place
  | .cdata raw place => b.addText limit (lineEnds (raw.map .plain)) place

/-- The root element of a finished document. -/
def finish (b : Builder) : Except Error Element :=
  match b.frames, b.root with
  | _ :: _, _ => .error .unclosedRoot
  | [], some e => .ok e
  | [], none => .error .noRoot

end Builder

/-- The root element of a text with at most `limit` nodes, or the first error in it. -/
def root? (limit : Nat) (cs : List Char) : Except Error Element := do
  let tokens := scan cs
  let b ← tokens.tokens.foldlM (Builder.add limit) Builder.start
  match tokens.failure with
  | some e => .error e
  | none => b.finish

end MetaSchema.Xml
