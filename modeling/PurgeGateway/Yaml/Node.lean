import PurgeGateway.Yaml.Token

/-!
# Nodes of YAML

A document is a tree of nodes. A node may carry an anchor, and an alias stands for the node that
carries its anchor. Anchors are numbered by the count of distinct names before them, so a name that
is used again can take the number of another; of several nodes under one number the last counts.

## Main definitions

* `Yaml.Node`: the nodes.
* `Yaml.document?`: the only document of a list of tokens.
* `Yaml.Node.ofText?`: the only document of a text.
-/

namespace PurgeGateway.Yaml

/-- A node. Anchors and aliases are numbers. -/
inductive Node
  | scalar (anchor : Option Nat) (tag : Option String) (style : Style) (content : String)
  | sequence (anchor : Option Nat) (items : List Node)
  | mapping (anchor : Option Nat) (entries : List (Node × Node))
  | alias (number : Nat)
  deriving Repr, Inhabited

/-- The empty plain scalar, which stands where a node is left out. -/
def Node.blank : Node :=
  .scalar none none .plain ""

/-! ### Tags -/

/-- The handles that every document knows. -/
def standardHandles : List (String × String) :=
  [("!", "!"), ("!!", "tag:yaml.org,2002:")]

/-- The text of a tag. Without a handle it is the tag itself; a handle must be known. -/
def Tag.text? (handles : List (String × String)) (t : Tag) : Option String :=
  if t.handle.isEmpty then some t.suffix
  else (handles.lookup t.handle).map (· ++ t.suffix)

/-! ### Anchors -/

/-- The names of anchors so far with their numbers. -/
abbrev Anchors := List (String × Nat)

/-- The number of an anchor and the anchors with it. -/
def Anchors.note (anchors : Anchors) (name : String) : Nat × Anchors :=
  (anchors.length, (name, anchors.length) :: anchors.filter (·.1 != name))

/-! ### Properties of a node -/

/-- What is said about a node in front of it. -/
structure Properties where
  anchor : Option String := none
  tag : Option Tag := none

/-- The anchor and the tag at the front of tokens, in either order, and the rest. -/
def properties : List Token → Properties × List Token
  | .anchor name :: .tag t :: rest => ({ anchor := some name, tag := some t }, rest)
  | .anchor name :: rest => ({ anchor := some name }, rest)
  | .tag t :: .anchor name :: rest => ({ anchor := some name, tag := some t }, rest)
  | .tag t :: rest => ({ tag := some t }, rest)
  | ts => ({}, ts)

/-- The text of the tag of a node. The outer `none` is a handle that is not known. -/
def Properties.tagText? (handles : List (String × String)) (p : Properties) :
    Option (Option String) :=
  match p.tag with
  | none => some none
  | some t => (t.text? handles).map some

/-! ### Nodes of tokens

Each reader takes the anchors seen before and gives those seen after it. Its fuel bounds the number
of calls that are open at a time. -/

/-- What a reader finds: something, the rest of the tokens, and the anchors seen. -/
abbrev Found (α : Type) := Option (α × List Token × Anchors)

/-- The token ends a part of a block mapping. -/
def endsMappingPart : List Token → Bool
  | .key :: _ | .value :: _ | .blockEnd :: _ => true
  | _ => false

mutual

/-- A node. Block collections are only taken in a block; a sequence of entries that is not
indented further is only taken where `entries` says so. -/
def node? (handles : List (String × String)) (block entries : Bool) :
    Nat → List Token → Anchors → Found Node
  | 0, _, _ => none
  | fuel + 1, ts, anchors =>
    match ts with
    | .alias name :: rest => (anchors.lookup name).map fun n => (.alias n, rest, anchors)
    | _ =>
      let (props, ts) := properties ts
      match props.tagText? handles with
      | none => none
      | some tag =>
        let (anchor, anchors) : Option Nat × Anchors :=
          match props.anchor with
          | some name => let (n, anchors) := anchors.note name; (some n, anchors)
          | none => (none, anchors)
        match ts with
        | .entry :: _ =>
          if entries then
            (flatItems? handles fuel ts anchors).map fun (items, rest) =>
              (.sequence anchor items, rest)
          else if props.anchor.isSome || props.tag.isSome then
            some (.scalar anchor tag .plain "", ts, anchors)
          else none
        | .scalar style content :: rest =>
          let tag := if tag == some "!" then none else tag
          some (.scalar anchor tag style content, rest, anchors)
        | .flowSequence :: rest =>
          (flowItems? handles true fuel rest anchors).map fun (items, rest) =>
            (.sequence anchor items, rest)
        | .flowMapping :: rest =>
          (flowEntries? handles true fuel rest anchors).map fun (entries, rest) =>
            (.mapping anchor entries, rest)
        | .blockSequence :: rest =>
          if block then
            (blockItems? handles fuel rest anchors).map fun (items, rest) =>
              (.sequence anchor items, rest)
          else if props.anchor.isSome || props.tag.isSome then
            some (.scalar anchor tag .plain "", ts, anchors)
          else none
        | .blockMapping :: rest =>
          if block then
            (blockEntries? handles fuel rest anchors).map fun (entries, rest) =>
              (.mapping anchor entries, rest)
          else if props.anchor.isSome || props.tag.isSome then
            some (.scalar anchor tag .plain "", ts, anchors)
          else none
        | _ =>
          if props.anchor.isSome || props.tag.isSome then
            some (.scalar anchor tag .plain "", ts, anchors)
          else none

/-- The items of a block sequence up to its end. -/
def blockItems? (handles : List (String × String)) :
    Nat → List Token → Anchors → Found (List Node)
  | 0, _, _ => none
  | fuel + 1, ts, anchors =>
    match ts with
    | .blockEnd :: rest => some ([], rest, anchors)
    | .entry :: rest =>
      let item : Found Node :=
        match rest with
        | .entry :: _ | .blockEnd :: _ => some (Node.blank, rest, anchors)
        | _ => node? handles true false fuel rest anchors
      item.bind fun (item, rest, anchors) =>
        (blockItems? handles fuel rest anchors).map fun (items, rest) => (item :: items, rest)
    | _ => none

/-- The items of a sequence of entries that is not indented further than the mapping around it. -/
def flatItems? (handles : List (String × String)) :
    Nat → List Token → Anchors → Found (List Node)
  | 0, _, _ => none
  | fuel + 1, ts, anchors =>
    match ts with
    | .entry :: rest =>
      let item : Found Node :=
        match rest with
        | .entry :: _ => some (Node.blank, rest, anchors)
        | _ =>
          if endsMappingPart rest then some (Node.blank, rest, anchors)
          else node? handles true false fuel rest anchors
      item.bind fun (item, rest, anchors) =>
        (flatItems? handles fuel rest anchors).map fun (items, rest) => (item :: items, rest)
    | _ => some ([], ts, anchors)

/-- The entries of a block mapping up to its end. -/
def blockEntries? (handles : List (String × String)) :
    Nat → List Token → Anchors → Found (List (Node × Node))
  | 0, _, _ => none
  | fuel + 1, ts, anchors =>
    match ts with
    | .blockEnd :: rest => some ([], rest, anchors)
    | .key :: rest =>
      (blockPart? handles fuel rest anchors).bind fun (key, rest, anchors) =>
        let value : Found Node :=
          match rest with
          | .value :: rest => blockPart? handles fuel rest anchors
          | _ => some (Node.blank, rest, anchors)
        value.bind fun (value, rest, anchors) =>
          (blockEntries? handles fuel rest anchors).map fun (entries, rest) =>
            ((key, value) :: entries, rest)
    | _ => none

/-- A key or a value of a block mapping, which may be left out. -/
def blockPart? (handles : List (String × String)) :
    Nat → List Token → Anchors → Found Node
  | 0, _, _ => none
  | fuel + 1, ts, anchors =>
    if endsMappingPart ts then some (Node.blank, ts, anchors)
    else node? handles true true fuel ts anchors

/-- The items of a flow sequence up to its end; before each but the first stands a comma. A key
makes an item a mapping of one entry. -/
def flowItems? (handles : List (String × String)) (first : Bool) :
    Nat → List Token → Anchors → Found (List Node)
  | 0, _, _ => none
  | fuel + 1, ts, anchors =>
    match ts with
    | .flowSequenceEnd :: rest => some ([], rest, anchors)
    | _ =>
      let behindComma : Option (List Token) :=
        if first then some ts
        else match ts with
          | .comma :: rest => some rest
          | _ => none
      match behindComma with
      | none => none
      | some (.flowSequenceEnd :: rest) => some ([], rest, anchors)
      | some ts =>
        let item : Found Node :=
          match ts with
          | .key :: rest => flowPair? handles fuel rest anchors
          | _ => node? handles false false fuel ts anchors
        item.bind fun (item, rest, anchors) =>
          (flowItems? handles false fuel rest anchors).map fun (items, rest) =>
            (item :: items, rest)

/-- The mapping of one entry behind the key token inside a flow sequence. A token that stands in
place of the key is passed over. -/
def flowPair? (handles : List (String × String)) :
    Nat → List Token → Anchors → Found Node
  | 0, _, _ => none
  | fuel + 1, ts, anchors =>
    let key : Found Node :=
      match ts with
      | .value :: rest | .comma :: rest | .flowSequenceEnd :: rest =>
        some (Node.blank, rest, anchors)
      | _ => node? handles false false fuel ts anchors
    key.bind fun (key, ts, anchors) =>
      let value : Found Node :=
        match ts with
        | .value :: .comma :: rest => some (Node.blank, .comma :: rest, anchors)
        | .value :: .flowSequenceEnd :: rest =>
          some (Node.blank, .flowSequenceEnd :: rest, anchors)
        | .value :: rest => node? handles false false fuel rest anchors
        | _ => some (Node.blank, ts, anchors)
      value.map fun (value, rest) => (.mapping none [(key, value)], rest)

/-- The entries of a flow mapping up to its end; before each but the first stands a comma. -/
def flowEntries? (handles : List (String × String)) (first : Bool) :
    Nat → List Token → Anchors → Found (List (Node × Node))
  | 0, _, _ => none
  | fuel + 1, ts, anchors =>
    match ts with
    | .flowMappingEnd :: rest => some ([], rest, anchors)
    | _ =>
      let behindComma : Option (List Token) :=
        if first then some ts
        else match ts with
          | .comma :: rest => some rest
          | _ => none
      match behindComma with
      | none => none
      | some (.flowMappingEnd :: rest) => some ([], rest, anchors)
      | some ts =>
        let entry : Found (Node × Node) :=
          match ts with
          | .key :: rest => flowEntry? handles fuel rest anchors
          | _ =>
            (node? handles false false fuel ts anchors).map fun (key, rest) =>
              ((key, Node.blank), rest)
        entry.bind fun (entry, rest, anchors) =>
          (flowEntries? handles false fuel rest anchors).map fun (entries, rest) =>
            (entry :: entries, rest)

/-- The key and the value behind a key token inside a flow mapping. -/
def flowEntry? (handles : List (String × String)) :
    Nat → List Token → Anchors → Found (Node × Node)
  | 0, _, _ => none
  | fuel + 1, ts, anchors =>
    let key : Found Node :=
      match ts with
      | .value :: _ | .comma :: _ | .flowMappingEnd :: _ => some (Node.blank, ts, anchors)
      | _ => node? handles false false fuel ts anchors
    key.bind fun (key, ts, anchors) =>
      let value : Found Node :=
        match ts with
        | .value :: .comma :: rest => some (Node.blank, .comma :: rest, anchors)
        | .value :: .flowMappingEnd :: rest =>
          some (Node.blank, .flowMappingEnd :: rest, anchors)
        | .value :: rest => node? handles false false fuel rest anchors
        | _ => some (Node.blank, ts, anchors)
      value.map fun (value, rest) => ((key, value), rest)

end

/-! ### Documents -/

/-- What the directives in front of a document have said: a version, and handles. -/
structure Preamble where
  versionSeen : Bool := false
  handles : List (String × String) := []

/-- The preamble with one more directive. There is one version at most, and a handle is given one
meaning. -/
def Preamble.add? (p : Preamble) : Directive → Option Preamble
  | .version major minor =>
    if p.versionSeen || major != 1 || !(minor == 1 || minor == 2) then none
    else some { p with versionSeen := true }
  | .handle name meaning =>
    if (p.handles.lookup name).isSome then none
    else some { p with handles := p.handles ++ [(name, meaning)] }

/-- The directives at the front of tokens, and the rest. -/
def preamble? (p : Preamble) : List Token → Option (Preamble × List Token)
  | .directive d :: rest => (p.add? d).bind fun p => preamble? p rest
  | ts => some (p, ts)

/-- The tokens are those that end a text: any number of document ends, then the end. -/
def onlyEnds : List Token → Bool
  | .documentEnd :: rest => onlyEnds rest
  | [.streamEnd] => true
  | _ => false

/-- The content behind the start of a document. -/
def content? (handles : List (String × String)) (ts : List Token) : Found Node :=
  match ts with
  | .directive _ :: _ | .documentStart :: _ | .documentEnd :: _ | .streamEnd :: _ =>
    some (Node.blank, ts, [])
  | _ => node? handles true false (2 * ts.length + 2) ts []

/-- The root of the only document. A text without documents has a blank root. -/
def document? (ts : List Token) : Option Node := do
  match ts with
  | [.streamEnd] => some Node.blank
  | .directive _ :: _ | .documentStart :: _ =>
    let (p, ts) ← preamble? {} ts
    match ts with
    | .documentStart :: rest =>
      let (root, rest, _) ← content? (p.handles ++ standardHandles) rest
      if onlyEnds rest then some root else none
    | _ => none
  | _ =>
    let (root, rest, _) ← node? standardHandles true false (2 * ts.length + 2) ts []
    if onlyEnds rest then some root else none

/-- The root of the only document of a text. -/
def Node.ofText? (s : String) : Option Node :=
  (tokens? s).bind document?

end PurgeGateway.Yaml
