import ShaderConformance.Yaml.Document

/-!
# Mappings of YAML

What a document says: values by their keys.  A reference stands for the node that has a
name.  Nodes are numbered by the names that were given before them, so that a name that
is given again takes a new number, and the last node with a number is the one that is
referred to.
-/

namespace ShaderConformance.Yaml

/-! ## Numbering -/

/-- The names that were given, the last one first, with the numbers of their nodes. -/
abbrev Names := List (Text × Nat)

namespace Names

/-- The number of a node that is named now. -/
def next (names : Names) : Nat := (names.map (·.1)).eraseDups.length

/-- Names a node, if it has a name. -/
def give (name? : Option Text) : StateT Names Option (Option Nat) := do
  match name? with
  | none => return none
  | some name =>
    let names ← get
    set ((name, names.next) :: names)
    return names.next

/-- The number of the node that has a name now. -/
def number (name : Text) : StateT Names Option Nat := do (← get).lookup name

end Names

/-- The leaf with the number of what it refers to. -/
def Leaf.numbered : Leaf Text → StateT Names Option (Leaf Nat)
  | .scalar s => return .scalar s
  | .reference name => return .reference (← Names.number name)

/-- The item with numbers for names. -/
def Item.numbered (i : Item Text) : StateT Names Option (Item Nat) := do
  return ⟨← Names.give i.name?, ← i.leaf.numbered⟩

/-- The node with numbers for names.  A list is named before its items. -/
def Node.numbered : Node Text → StateT Names Option (Node Nat)
  | .item i => return .item (← i.numbered)
  | .list name? items => return .list (← Names.give name?) (← items.mapM Item.numbered)

/-- The entry with numbers for names. -/
def Entry.numbered (e : Entry Text) : StateT Names Option (Entry Nat) := do
  return ⟨← e.key.numbered, ← e.node.numbered⟩

/-- The document with numbers for names, if all that are referred to are given. -/
def Document.numbered? (d : Document Text) : Option (Document Nat) :=
  let run : StateT Names Option (Document Nat) := do
    return ⟨← Names.give d.name?, ← d.entries.mapM Entry.numbered⟩
  run.run' []

/-! ## References -/

/-- Nodes by their numbers. -/
abbrev Numbered := List (Nat × Node Nat)

/-- The item, if it has a number. -/
def Item.named (i : Item Nat) : Numbered := i.name?.toList.map (·, .item i)

/-- The nodes with numbers in a node. -/
def Node.named : Node Nat → Numbered
  | .item i => i.named
  | .list name? items =>
    name?.toList.map (·, .list name? items) ++ items.flatMap Item.named

/-- The nodes with numbers in a document, the last one first. -/
def Document.named (d : Document Nat) : Numbered :=
  (d.entries.flatMap fun e => e.key.named ++ e.node.named).reverse

/-- The node that a leaf stands for. -/
def Leaf.node? (nodes : Numbered) : Leaf Nat → Option (Node Nat)
  | .scalar s => some (.item ⟨none, .scalar s⟩)
  | .reference n => nodes.lookup n

/-- The text of an item that stands for a scalar. -/
def Item.text? (nodes : Numbered) (i : Item Nat) : Option Text :=
  match i.leaf.node? nodes with
  | some (.item ⟨_, .scalar s⟩) => some s.text
  | _ => none

/-! ## Values -/

/-- What the value of a key is. -/
inductive Value where
  | scalar (s : Scalar)
  | list (items : List Text)
deriving DecidableEq, Repr

/-- The value of a node. -/
def Node.value? (nodes : Numbered) (n : Node Nat) : Option Value :=
  let target? :=
    match n with
    | .item i => i.leaf.node? nodes
    | .list name? items => some (.list name? items)
  match target? with
  | some (.item ⟨_, .scalar s⟩) => some (.scalar s)
  | some (.list _ items) => (items.mapM (Item.text? nodes)).map .list
  | _ => none

/-- The key and the value of an entry. -/
def Entry.value? (nodes : Numbered) (e : Entry Nat) : Option (Text × Value) := do
  return (← e.key.text? nodes, ← e.node.value? nodes)

/-- The keys and values of a document. -/
def Document.values? (d : Document Nat) : Option (List (Text × Value)) :=
  d.entries.mapM (Entry.value? d.named)

namespace Scalar

/-- The tag of a value that is absent. -/
def nullTag : Text := "tag:yaml.org,2002:null".toList

/-- The words for a value that is absent. -/
def nullWords : List Text := [['~'], "null".toList, "Null".toList, "NULL".toList]

/-- Whether a scalar says that there is no value.  Quotation marks and other tags say that
    there is one. -/
def isNull? (s : Scalar) : Option Bool :=
  let word := nullWords.contains s.text
  match s.plain, s.tag? with
  | false, _ => some false
  | true, none => some (s.text.isEmpty || word)
  | true, some tag => if tag ≠ nullTag then some false else if word then some true else none

end Scalar

/-! ## Reading -/

/-- The keys and values of a text that holds a mapping. -/
def mapping? (s : Text) : Option (List (Text × Value)) :=
  if s.all isAllowed then do
    let tokens ← tokens? (withLineFeeds s)
    let document ← Document.ofTokens? tokens
    (← document.numbered?).values?
  else none

end ShaderConformance.Yaml
