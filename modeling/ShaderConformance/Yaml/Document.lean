import ShaderConformance.Yaml.Node

/-!
# Documents of YAML

A text holds one document.  It may be empty; otherwise it is a mapping, in lines or in
braces.  Directives may come before a document that is started in so many words.
-/

namespace ShaderConformance.Yaml

/-! ## Entries -/

/-- Reads the entries of a mapping in lines. -/
def blockEntries? (h : Handles) (ts : List Token) : Option (List (Entry Text) × List Token) :=
  match ts with
  | .blockEnd :: rest => some ([], rest)
  | .key :: ts =>
    match _h : entry? true h ts with
    | some (entry, rest) => (blockEntries? h rest).map fun (more, r) => (entry :: more, r)
    | none => none
  | _ => none
termination_by ts.length
decreasing_by
  have := length_entry?_le _h
  simp only [List.length_cons]
  omega

/-- Reads an entry between braces.  Without a mark in front, an item is a key that has no
    value. -/
def flowEntry? (h : Handles) : List Token → Option (Entry Text × List Token)
  | .key :: ts => entry? false h ts
  | ts => (item? h ts).map fun (key, r) => (⟨key, .item .missing⟩, r)

/-- An entry takes at least one token. -/
theorem length_flowEntry?_lt {h : Handles} {ts rest : List Token} {n : Entry Text}
    (e : flowEntry? h ts = some (n, rest)) : rest.length < ts.length := by
  unfold flowEntry? at e
  split at e
  · exact Nat.lt_succ_of_le (length_entry?_le e)
  · obtain ⟨⟨_, _⟩, he, e⟩ := Option.map_eq_some_iff.1 e
    cases e
    exact length_item?_lt he

/-- Reads the entries of a mapping in braces, behind the first brace. -/
def braceEntries? (h : Handles) (ts : List Token) : Option (List (Entry Text) × List Token) :=
  match ts with
  | .braceClose :: rest => some ([], rest)
  | ts =>
    match _h : flowEntry? h ts with
    | some (entry, .braceClose :: rest) => some ([entry], rest)
    | some (entry, .comma :: rest) =>
      (braceEntries? h rest).map fun (more, r) => (entry :: more, r)
    | _ => none
termination_by ts.length
decreasing_by
  have := length_flowEntry?_lt _h
  simp only [List.length_cons] at this
  omega

/-! ## Directives -/

/-- The versions that are read. -/
def isReadable (major minor : Nat) : Bool := major = 1 && (minor = 1 || minor = 2)

/-- Reads the directives of a document, of which each may be given once.  Gives what its
    handles stand for. -/
def directives? (versioned : Bool) (h : Handles) : List Token → Option (Handles × List Token)
  | .directive (.version major minor) :: ts =>
    if versioned || !isReadable major minor then none else directives? true h ts
  | .directive (.handle name start) :: ts =>
    if (h.lookup name).isSome then none else directives? versioned ((name, start) :: h) ts
  | ts => some (h ++ Handles.standard, ts)

/-! ## Documents -/

/-- Reads the mapping that a document is. -/
def root? (h : Handles) (ts : List Token) : Option (Document Text × List Token) :=
  match Properties.read? h ts with
  | some (p, .blockMapping :: rest) =>
    (blockEntries? h rest).map fun (entries, r) => (⟨p.name?, entries⟩, r)
  | some (p, .braceOpen :: rest) =>
    (braceEntries? h rest).map fun (entries, r) => (⟨p.name?, entries⟩, r)
  -- Properties of nothing are those of a mapping without entries.
  | some (p, rest) => if p.isNone then none else some (⟨p.name?, []⟩, rest)
  | none => none

/-- Whether tokens say nothing but that a document ends. -/
def endsDocument (ts : List Token) : Bool := ts.all (· = .documentEnd)

/-- The mapping that is all there is. -/
def onlyRoot? (h : Handles) (ts : List Token) : Option (Document Text) :=
  (root? h ts).bind fun (d, rest) => if endsDocument rest then some d else none

/-- The document that tokens hold. -/
def Document.ofTokens? (ts : List Token) : Option (Document Text) :=
  match directives? false [] ts with
  | some (h, .documentStart :: rest) =>
    if endsDocument rest then some ⟨none, []⟩ else onlyRoot? h rest
  | some (h, rest) =>
    if ts.isEmpty then some ⟨none, []⟩
    -- Directives ask for a mark of the start of the document behind them.
    else if rest.length < ts.length then none
    else onlyRoot? h rest
  | none => none

end ShaderConformance.Yaml
