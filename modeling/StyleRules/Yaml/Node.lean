import StyleRules.Yaml.Layout

/-!
# YAML nodes

The tokens of a text make up a tree of scalars, sequences and mappings, each with its tag.  An alias stands
for the node that its anchor marks.  A text holds one document at most.
-/

namespace StyleRules.Yaml

/-- A node; a missing tag is left to the content. -/
inductive Node where
  | scalar (tag : Option String) (text : String) (plain : Bool)
  | sequence (tag : Option String) (items : List Node)
  | mapping (tag : Option String) (entries : List (Node × Node))
  deriving Inhabited

namespace Node

/-- The node of missing content. -/
def missing : Node := .scalar none "" true

end Node

/-- The names that shorthands and anchors stand for.  An anchor has no node yet while that is being read. -/
structure Scope where
  shorthands : List (String × String)
  anchors : List (String × Option Node)

namespace Scope

/-- The scope of a document without directives. -/
def initial : Scope := ⟨[("!", "!"), ("!!", "tag:yaml.org,2002:")], []⟩

/-- The full name of a tag.  The bare exclamation mark leaves the tag to the content. -/
def tagName? (scope : Scope) (handle : Option String) (suffix : String) : Option String :=
  match handle with
  | none => some suffix
  | some handle => (scope.shorthands.lookup handle).map (· ++ suffix)

end Scope

/-- Anchor and tag in front of a node. -/
structure Properties where
  anchor : Option String
  tag : Option String

/-- Read anchor and tag, in any order. -/
def properties? (scope : Scope) : List Token → Option (Properties × List Token)
  | .anchor name :: .tag handle suffix :: rest
  | .tag handle suffix :: .anchor name :: rest => do
    let tag ← scope.tagName? handle suffix
    return (⟨some name, some tag⟩, rest)
  | .anchor name :: rest => some (⟨some name, none⟩, rest)
  | .tag handle suffix :: rest => do
    let tag ← scope.tagName? handle suffix
    return (⟨none, some tag⟩, rest)
  | rest => some (⟨none, none⟩, rest)

/-- The tag that counts: the bare exclamation mark leaves it to the content. -/
def Properties.tagOfContent (properties : Properties) : Option String :=
  if properties.tag = some "!" then none else properties.tag

/-- Remember a node under its anchor. -/
def Properties.remember (properties : Properties) (node : Node) (scope : Scope) : Scope :=
  match properties.anchor with
  | some name => { scope with anchors := (name, some node) :: scope.anchors }
  | none => scope

/-- Reserve the anchor of a node.  An anchor may be set only once. -/
def Properties.reserve? (properties : Properties) (scope : Scope) : Option Scope :=
  match properties.anchor with
  | some name =>
    if scope.anchors.any fun entry => entry.1 = name then none
    else some { scope with anchors := (name, none) :: scope.anchors }
  | none => some scope

/-- The token ends an entry of a block collection. -/
def endsBlockEntry (token : Option Token) : Bool :=
  token = some .key || token = some .value || token = some .blockEnd

/-- The token ends an item of a flow sequence. -/
def endsFlowItem (token : Option Token) : Bool :=
  token = some .flowEntry || token = some .flowSequenceEnd

/-- The token ends an entry of a flow mapping. -/
def endsFlowEntry (token : Option Token) : Bool :=
  token = some .flowEntry || token = some .flowMappingEnd

mutual

/-- Read a node.  `block` allows block collections, and `indentless` also allows a sequence whose entries
stand at the column of the key before it. -/
def node? (fuel : Nat) (block indentless : Bool) (scope : Scope) (tokens : List Token) :
    Option (Node × Scope × List Token) :=
  match fuel with
  | 0 => none
  | fuel + 1 =>
    match tokens with
    | .alias name :: rest => (scope.anchors.lookup name).join.map fun node => (node, scope, rest)
    | _ => do
      let (properties, rest) ← properties? scope tokens
      let scope ← properties.reserve? scope
      let (node, scope, rest) ← content? fuel block indentless properties scope rest
      return (node, properties.remember node scope, rest)

/-- Read what follows anchor and tag. -/
def content? (fuel : Nat) (block indentless : Bool) (properties : Properties) (scope : Scope)
    (tokens : List Token) : Option (Node × Scope × List Token) :=
  match fuel with
  | 0 => none
  | fuel + 1 =>
    let tag := properties.tagOfContent
    match tokens with
    | .scalar text plain :: rest =>
      some (.scalar tag text (plain || properties.tag = some "!"), scope, rest)
    | .flowSequence :: rest => do
      let (items, scope, rest) ← flowItems? fuel true scope rest
      return (.sequence tag items, scope, rest)
    | .flowMapping :: rest => do
      let (entries, scope, rest) ← flowEntries? fuel true scope rest
      return (.mapping tag entries, scope, rest)
    | first :: rest =>
      if first = .blockEntry && indentless then do
        let (items, scope, rest) ← indentlessItems? fuel scope tokens
        return (.sequence tag items, scope, rest)
      else if first = .blockSequence && block then do
        let (items, scope, rest) ← blockItems? fuel scope rest
        return (.sequence tag items, scope, rest)
      else if first = .blockMapping && block then do
        let (entries, scope, rest) ← blockEntries? fuel scope rest
        return (.mapping tag entries, scope, rest)
      else if properties.anchor.isSome || properties.tag.isSome then
        some (.scalar tag "" true, scope, tokens)
      else none
    | [] =>
      if properties.anchor.isSome || properties.tag.isSome then some (.scalar tag "" true, scope, [])
      else none

/-- Read the items of a block sequence up to its end. -/
def blockItems? (fuel : Nat) (scope : Scope) (tokens : List Token) :
    Option (List Node × Scope × List Token) :=
  match fuel with
  | 0 => none
  | fuel + 1 =>
    match tokens with
    | .blockEnd :: rest => some ([], scope, rest)
    | .blockEntry :: rest => do
      let (first, scope, rest) ←
        if rest.head? = some .blockEntry || rest.head? = some .blockEnd then
          some (Node.missing, scope, rest)
        else node? fuel true false scope rest
      let (others, scope, rest) ← blockItems? fuel scope rest
      return (first :: others, scope, rest)
    | _ => none

/-- Read the items of a sequence that has no indentation of its own. -/
def indentlessItems? (fuel : Nat) (scope : Scope) (tokens : List Token) :
    Option (List Node × Scope × List Token) :=
  match fuel with
  | 0 => none
  | fuel + 1 =>
    match tokens with
    | .blockEntry :: rest => do
      let (first, scope, rest) ←
        if rest.head? = some .blockEntry || endsBlockEntry rest.head? then
          some (Node.missing, scope, rest)
        else node? fuel true false scope rest
      let (others, scope, rest) ← indentlessItems? fuel scope rest
      return (first :: others, scope, rest)
    | _ => some ([], scope, tokens)

/-- Read the entries of a block mapping up to its end.  Each entry has a key, even if it is an empty one. -/
def blockEntries? (fuel : Nat) (scope : Scope) (tokens : List Token) :
    Option (List (Node × Node) × Scope × List Token) :=
  match fuel with
  | 0 => none
  | fuel + 1 =>
    match tokens with
    | .blockEnd :: rest => some ([], scope, rest)
    | .key :: rest => do
      let (key, scope, rest) ←
        if endsBlockEntry rest.head? then some (Node.missing, scope, rest)
        else node? fuel true true scope rest
      let (value, scope, rest) ← blockValue? fuel scope rest
      let (others, scope, rest) ← blockEntries? fuel scope rest
      return ((key, value) :: others, scope, rest)
    | _ => none

/-- Read the value of a block mapping, which may be missing. -/
def blockValue? (fuel : Nat) (scope : Scope) (tokens : List Token) : Option (Node × Scope × List Token) :=
  match fuel with
  | 0 => none
  | fuel + 1 =>
    match tokens with
    | .value :: rest =>
      if endsBlockEntry rest.head? then some (Node.missing, scope, rest)
      else node? fuel true true scope rest
    | _ => some (Node.missing, scope, tokens)

/-- Read the items of a flow sequence up to its end. -/
def flowItems? (fuel : Nat) (first : Bool) (scope : Scope) (tokens : List Token) :
    Option (List Node × Scope × List Token) :=
  match fuel with
  | 0 => none
  | fuel + 1 =>
    match tokens with
    | .flowSequenceEnd :: rest => some ([], scope, rest)
    | _ =>
      let start :=
        if first then some tokens
        else match tokens with
          | .flowEntry :: rest => some rest
          | _ => none
      match start with
      | none => none
      | some (.flowSequenceEnd :: rest) => some ([], scope, rest)
      | some (.key :: rest) => do
        let (key, scope, rest) ←
          if rest.head? = some .value || endsFlowItem rest.head? then some (Node.missing, scope, rest)
          else node? fuel false false scope rest
        let (value, scope, rest) ←
          match rest with
          | .value :: rest =>
            if endsFlowItem rest.head? then some (Node.missing, scope, rest)
            else node? fuel false false scope rest
          | _ => some (Node.missing, scope, rest)
        let (others, scope, rest) ← flowItems? fuel false scope rest
        return (.mapping none [(key, value)] :: others, scope, rest)
      | some rest => do
        let (item, scope, rest) ← node? fuel false false scope rest
        let (others, scope, rest) ← flowItems? fuel false scope rest
        return (item :: others, scope, rest)

/-- Read the entries of a flow mapping up to its end. -/
def flowEntries? (fuel : Nat) (first : Bool) (scope : Scope) (tokens : List Token) :
    Option (List (Node × Node) × Scope × List Token) :=
  match fuel with
  | 0 => none
  | fuel + 1 =>
    match tokens with
    | .flowMappingEnd :: rest => some ([], scope, rest)
    | _ =>
      let start :=
        if first then some tokens
        else match tokens with
          | .flowEntry :: rest => some rest
          | _ => none
      match start with
      | none => none
      | some (.flowMappingEnd :: rest) => some ([], scope, rest)
      | some (.key :: rest) => do
        let (key, scope, rest) ←
          if rest.head? = some .value || endsFlowEntry rest.head? then some (Node.missing, scope, rest)
          else node? fuel false false scope rest
        let (value, scope, rest) ←
          match rest with
          | .value :: rest =>
            if endsFlowEntry rest.head? then some (Node.missing, scope, rest)
            else node? fuel false false scope rest
          | _ => some (Node.missing, scope, rest)
        let (others, scope, rest) ← flowEntries? fuel false scope rest
        return ((key, value) :: others, scope, rest)
      | some rest => do
        let (key, scope, rest) ← node? fuel false false scope rest
        let (others, scope, rest) ← flowEntries? fuel false scope rest
        return ((key, Node.missing) :: others, scope, rest)

end

/-- Read directives; the version has to be 1, and neither it nor a shorthand may be declared twice. -/
def directives? (versionSeen : Bool) (declared : List (String × String)) :
    List Token → Option (List (String × String) × Bool × List Token)
  | .version major :: rest =>
    if versionSeen || major ≠ 1 then none else directives? true declared rest
  | .shorthand handle target :: rest =>
    if declared.any fun entry => entry.1 = handle then none
    else directives? versionSeen ((handle, target) :: declared) rest
  | .otherDirective :: rest => directives? versionSeen declared rest
  | tokens => some (declared, versionSeen, tokens)

/-- The token is a directive or a document marker. -/
def isDocumentToken : Token → Bool
  | .version _ | .shorthand _ _ | .otherDirective | .documentStart | .documentEnd => true
  | _ => false

/-- Read the node at the root of a document. -/
def rootNode? (shorthands : List (String × String)) (tokens : List Token) :
    Option (Node × List Token) :=
  (node? (4 * tokens.length + 4) true false ⟨shorthands ++ Scope.initial.shorthands, []⟩ tokens).map
    fun (node, _, rest) => (node, rest)

/-- Read the content behind the start of a document, which may be missing. -/
def documentContent? (shorthands : List (String × String)) (tokens : List Token) :
    Option (Node × List Token) :=
  match tokens with
  | [] => some (.missing, [])
  | first :: _ => if isDocumentToken first then some (.missing, tokens) else rootNode? shorthands tokens

/-- Read a document that begins with directives or a start marker, or with its content. -/
def firstDocument? (tokens : List Token) : Option (Node × List Token) :=
  if (tokens.head?.map isDocumentToken).getD false then
    match directives? false [] tokens with
    | some (shorthands, _, .documentStart :: rest) => documentContent? shorthands rest
    | _ => none
  else rootNode? [] tokens

/-- Read the only document of a text; an empty text holds none. -/
def document? (tokens : List Token) : Option (Option Node) :=
  if tokens.isEmpty then some none
  else
    match firstDocument? tokens with
    | some (node, rest) => if rest.all (· = .documentEnd) then some (some node) else none
    | none => none

end StyleRules.Yaml
