import ShaderConformance.Yaml.Token

/-!
# Nodes of a YAML document

The documents that are read here are flat: a mapping whose keys are scalars and whose
values are scalars or lists of scalars.  In the place of any of those may stand a
reference to a node that was given a name.

Main statements:

* `length_item?_lt` an item has a token at least;
* `length_entry?_le` the tokens of an entry are taken from the front.
-/

namespace ShaderConformance.Yaml

structure Scalar where
  text : Text
  plain : Bool
  /-- The tag in full. -/
  tag? : Option Text
deriving DecidableEq, Repr

/-- The scalar of a node that is not written. -/
def Scalar.missing : Scalar := ⟨[], true, none⟩

/-- A scalar, or a reference to a node. -/
inductive Leaf (R : Type) where
  | scalar (s : Scalar)
  | reference (r : R)
deriving DecidableEq, Repr

/-- A leaf by which others may be referred to. -/
structure Item (R : Type) where
  name? : Option R
  leaf : Leaf R
deriving DecidableEq, Repr

/-- The item that is not written. -/
def Item.missing {R : Type} : Item R := ⟨none, .scalar .missing⟩

inductive Node (R : Type) where
  | item (i : Item R)
  | list (name? : Option R) (items : List (Item R))
deriving DecidableEq, Repr

structure Entry (R : Type) where
  key : Item R
  node : Node R
deriving DecidableEq, Repr

/-- A document; its nodes are referred to as `R` tells. -/
structure Document (R : Type) where
  /-- The name of the mapping itself. -/
  name? : Option R
  entries : List (Entry R)
deriving DecidableEq, Repr

/-! ## Properties -/

/-- What may stand before a node. -/
structure Properties where
  name? : Option Text
  tag? : Option Text
deriving DecidableEq, Repr

namespace Properties

def none : Properties := ⟨.none, .none⟩

def isNone (p : Properties) : Bool := p.name?.isNone && p.tag?.isNone

/-- The tag that says nothing about a scalar that is written. -/
def markTag : Text := ['!']

/-- A scalar with these properties. -/
def scalar (p : Properties) (text : Text) (plain : Bool) : Item Text :=
  ⟨p.name?, .scalar ⟨text, plain, p.tag?.filter (· ≠ markTag)⟩⟩

/-- The item that is not written, with these properties. -/
def missing (p : Properties) : Item Text :=
  ⟨p.name?, .scalar { Scalar.missing with tag? := p.tag? }⟩

/-- The properties in front of a node, of which there are two at most. -/
def read? (h : Handles) : List Token → Option (Properties × List Token)
  | .name n :: .tag t :: ts => (t.full? h).map fun tag => (⟨n, tag⟩, ts)
  | .tag t :: .name n :: ts => (t.full? h).map fun tag => (⟨n, tag⟩, ts)
  | .name n :: ts => some (⟨n, .none⟩, ts)
  | .tag t :: ts => (t.full? h).map fun tag => (⟨.none, tag⟩, ts)
  | ts => some (none, ts)

/-- Properties take the tokens that they are made of. -/
theorem length_read? {h : Handles} {ts rest : List Token} {p : Properties}
    (e : read? h ts = some (p, rest)) :
    rest.length ≤ ts.length ∧ (p.isNone = false → rest.length < ts.length) := by
  unfold read? at e
  split at e
  · obtain ⟨_, _, e⟩ := Option.map_eq_some_iff.1 e
    cases e
    simp only [List.length_cons]
    omega
  · obtain ⟨_, _, e⟩ := Option.map_eq_some_iff.1 e
    cases e
    simp only [List.length_cons]
    omega
  · cases e
    simp
  · obtain ⟨_, _, e⟩ := Option.map_eq_some_iff.1 e
    cases e
    simp
  · cases e
    simp [none, isNone]

end Properties

/-! ## Items -/

/-- Reads an item. -/
def item? (h : Handles) (ts : List Token) : Option (Item Text × List Token) :=
  match ts with
  | .reference name :: rest => some (⟨none, .reference name⟩, rest)
  | ts =>
    match Properties.read? h ts with
    | some (p, .scalar text plain :: rest) => some (p.scalar text plain, rest)
    | some (p, rest) => if p.isNone then none else some (p.missing, rest)
    | none => none

/-- An item takes at least one token. -/
theorem length_item?_lt {h : Handles} {ts rest : List Token} {i : Item Text}
    (e : item? h ts = some (i, rest)) : rest.length < ts.length := by
  unfold item? at e
  split at e
  · cases e
    simp
  · split at e
    case _ p _ _ _ hp =>
      cases e
      have := (Properties.length_read? hp).1
      simp only [List.length_cons] at this
      omega
    case _ hp =>
      split at e
      · cases e
      · cases e
        exact (Properties.length_read? hp).2 (by simp_all)
    · cases e

namespace Token

/-- Whether a token tells that the key or the value of an entry is not written. -/
def endsEntry : Token → Bool
  | key | value | comma | blockEnd | braceClose => true
  | _ => false

/-- Whether a token tells that an item behind a dash is not written. -/
def endsItem (t : Token) : Bool := t = dash || t.endsEntry

end Token

/-- Reads an item that is not written in front of certain tokens. -/
def itemUnless? (ends : Token → Bool) (h : Handles) (ts : List Token) :
    Option (Item Text × List Token) :=
  if ts.head?.any ends then some (.missing, ts) else item? h ts

/-- An item that may be left out takes no tokens from what follows. -/
theorem length_itemUnless?_le {ends : Token → Bool} {h : Handles} {ts rest : List Token}
    {i : Item Text} (e : itemUnless? ends h ts = some (i, rest)) : rest.length ≤ ts.length := by
  unfold itemUnless? at e
  split at e
  · cases e
    exact Nat.le_refl _
  · exact Nat.le_of_lt (length_item?_lt e)

/-! ## Lists -/

/-- Reads the items of a list in brackets, behind the first bracket. -/
def bracketItems? (h : Handles) (ts : List Token) : Option (List (Item Text) × List Token) :=
  match ts with
  | .bracketClose :: rest => some ([], rest)
  | ts =>
    match _h : item? h ts with
    | some (i, .bracketClose :: rest) => some ([i], rest)
    | some (i, .comma :: rest) => (bracketItems? h rest).map fun (more, r) => (i :: more, r)
    | _ => none
termination_by ts.length
decreasing_by
  have := length_item?_lt _h
  simp only [List.length_cons] at this
  omega

/-- Reads the items of a list with a dash in front of each. -/
def dashItems? (h : Handles) (ts : List Token) : Option (List (Item Text) × List Token) :=
  match ts with
  | .dash :: ts =>
    match _h : itemUnless? Token.endsItem h ts with
    | some (i, rest) => (dashItems? h rest).map fun (more, r) => (i :: more, r)
    | none => none
  | ts => some ([], ts)
termination_by ts.length
decreasing_by
  have := length_itemUnless?_le _h
  simp only [List.length_cons]
  omega

/-- The items in brackets end within the tokens. -/
theorem length_bracketItems?_le {h : Handles} {ts rest : List Token} {items : List (Item Text)}
    (e : bracketItems? h ts = some (items, rest)) : rest.length ≤ ts.length := by
  fun_induction bracketItems? h ts generalizing items rest with
  | case1 => cases e; simp
  | case2 ts _ i r hi =>
    cases e
    have := length_item?_lt hi
    simp only [List.length_cons] at this
    omega
  | case3 ts _ i r hi ih =>
    obtain ⟨⟨_, _⟩, he, e⟩ := Option.map_eq_some_iff.1 e
    cases e
    have := length_item?_lt hi
    have := ih he
    simp only [List.length_cons] at *
    omega
  | case4 => cases e

/-- The items of a list end within the tokens. -/
theorem length_dashItems?_le {h : Handles} {ts rest : List Token} {items : List (Item Text)}
    (e : dashItems? h ts = some (items, rest)) : rest.length ≤ ts.length := by
  fun_induction dashItems? h ts generalizing items rest with
  | case1 ts i r hi ih =>
    obtain ⟨⟨_, _⟩, he, e⟩ := Option.map_eq_some_iff.1 e
    cases e
    have := length_itemUnless?_le hi
    have := ih he
    simp only [List.length_cons]
    omega
  | case2 => cases e
  | case3 => cases e; exact Nat.le_refl _

/-- Reads a node, in a block or between brackets. -/
def node? (block : Bool) (h : Handles) (ts : List Token) : Option (Node Text × List Token) :=
  match Properties.read? h ts with
  | some (p, .bracketOpen :: rest) =>
    (bracketItems? h rest).map fun (items, r) => (.list p.name? items, r)
  -- A list that is further in than its key is a block of its own.
  | some (p, .blockList :: rest) =>
    match block, dashItems? h rest with
    | true, some (items, .blockEnd :: r) => some (.list p.name? items, r)
    | _, _ => none
  | some (p, .dash :: rest) =>
    if block then (dashItems? h (.dash :: rest)).map fun (items, r) => (.list p.name? items, r)
    else none
  | _ => (item? h ts).map fun (i, r) => (.item i, r)

/-- A node ends within the tokens. -/
theorem length_node?_le {block : Bool} {h : Handles} {ts rest : List Token} {n : Node Text}
    (e : node? block h ts = some (n, rest)) : rest.length ≤ ts.length := by
  unfold node? at e
  split at e
  case _ hp =>
    obtain ⟨⟨_, _⟩, he, e⟩ := Option.map_eq_some_iff.1 e
    cases e
    have := length_bracketItems?_le he
    have := (Properties.length_read? hp).1
    simp only [List.length_cons] at this
    omega
  case _ hp =>
    split at e
    case _ he =>
      cases e
      have := length_dashItems?_le he
      have := (Properties.length_read? hp).1
      simp only [List.length_cons] at *
      omega
    · cases e
  case _ hp =>
    split at e
    · obtain ⟨⟨_, _⟩, he, e⟩ := Option.map_eq_some_iff.1 e
      cases e
      exact Nat.le_trans (length_dashItems?_le he) (Properties.length_read? hp).1
    · cases e
  · obtain ⟨⟨_, _⟩, he, e⟩ := Option.map_eq_some_iff.1 e
    cases e
    exact Nat.le_of_lt (length_item?_lt he)

/-! ## Entries -/

/-- Reads an entry behind the token that marks its key. -/
def entry? (block : Bool) (h : Handles) (ts : List Token) : Option (Entry Text × List Token) :=
  match itemUnless? Token.endsEntry h ts with
  | some (key, .value :: rest) =>
    if rest.head?.any Token.endsEntry then some (⟨key, .item .missing⟩, rest)
    else (node? block h rest).map fun (n, r) => (⟨key, n⟩, r)
  | some (key, rest) => some (⟨key, .item .missing⟩, rest)
  | none => none

/-- An entry ends within the tokens. -/
theorem length_entry?_le {block : Bool} {h : Handles} {ts rest : List Token} {n : Entry Text}
    (e : entry? block h ts = some (n, rest)) : rest.length ≤ ts.length := by
  unfold entry? at e
  split at e
  case _ hk =>
    have := length_itemUnless?_le hk
    simp only [List.length_cons] at this
    split at e
    · cases e
      omega
    · obtain ⟨⟨_, _⟩, he, e⟩ := Option.map_eq_some_iff.1 e
      cases e
      have := length_node?_le he
      omega
  case _ hk =>
    cases e
    exact length_itemUnless?_le hk
  · cases e

end ShaderConformance.Yaml
