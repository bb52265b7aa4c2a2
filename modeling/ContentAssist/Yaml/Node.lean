import ContentAssist.Yaml.Scan

/-! From tokens to nodes. -/
namespace ContentAssist.Yaml

/-- A node of a document. An alias stands for the node that it names, by a name of type `α`. -/
inductive Node (α : Type) where
  | alias (target : α)
  | scalar (anchor tag : Option String) (style : ScalarStyle) (text : String)
  | sequence (anchor tag : Option String) (items : List (Node α))
  | mapping (anchor tag : Option String) (entries : List (Node α × Node α))

namespace Node

/-- What stands where a node is left out. -/
def blank {α : Type} : Node α := .scalar none none .plain ""

/-- The handles of tags with the texts that they stand for. -/
abbrev Handles := List (String × String)

def defaultHandles : Handles :=
  [("!", "!"), ("!!", "tag:yaml.org,2002:")]

def tagOf? (handles : Handles) (handle suffix : String) : Option String :=
  if handle = "" then some suffix
  else (handles.lookup handle).map (· ++ suffix)

/-- An anchor and a tag before a node, in either order. -/
def properties? (handles : Handles) : List Token → Option (Option String × Option String × List Token)
  | .anchor name :: .tag handle suffix :: rest =>
    (tagOf? handles handle suffix).map fun tag => (some name, some tag, rest)
  | .anchor name :: rest => some (some name, none, rest)
  | .tag handle suffix :: .anchor name :: rest =>
    (tagOf? handles handle suffix).map fun tag => (some name, some tag, rest)
  | .tag handle suffix :: rest => (tagOf? handles handle suffix).map fun tag => (none, some tag, rest)
  | rest => some (none, none, rest)

/-- No node comes next in a block mapping. -/
def endsEntry : List Token → Bool
  | .key :: _ | .value :: _ | .blockEnd :: _ => true
  | _ => false

mutual

/-- A node. Blocks are only looked for in block context; without indentation a sequence may stand as an entry of
a block mapping. -/
def node? (handles : Handles) : Nat → Bool → Bool → List Token → Option (Node String × List Token)
  | 0, _, _, _ => none
  | _ + 1, _, _, .alias name :: rest => some (.alias name, rest)
  | budget + 1, block, indentless, tokens => do
    let (anchor, tag, tokens) ← properties? handles tokens
    match tokens with
    | .scalar style text :: rest => some (.scalar anchor tag style text, rest)
    | .flowSequenceStart :: rest => do
      let (items, rest) ← flowItems? handles budget true rest
      some (.sequence anchor tag items, rest)
    | .flowMappingStart :: rest => do
      let (entries, rest) ← flowEntries? handles budget true rest
      some (.mapping anchor tag entries, rest)
    | tokens =>
      if indentless && tokens.head? = some .blockEntry then do
        let (items, rest) ← indentlessItems? handles budget tokens
        some (.sequence anchor tag items, rest)
      else if block && tokens.head? = some .blockSequenceStart then do
        let (items, rest) ← blockItems? handles budget tokens.tail
        some (.sequence anchor tag items, rest)
      else if block && tokens.head? = some .blockMappingStart then do
        let (entries, rest) ← blockEntries? handles budget tokens.tail
        some (.mapping anchor tag entries, rest)
      else if anchor.isSome || tag.isSome then some (.scalar anchor tag .plain "", tokens)
      else none

/-- The items of a block sequence up to its end. -/
def blockItems? (handles : Handles) : Nat → List Token → Option (List (Node String) × List Token)
  | 0, _ => none
  | budget + 1, tokens =>
    match tokens with
    | .blockEnd :: rest => some ([], rest)
    | .blockEntry :: rest => do
      let (item, rest) ←
        match rest with
        | .blockEntry :: _ | .blockEnd :: _ => some (blank, rest)
        | rest => node? handles budget true false rest
      let (items, rest) ← blockItems? handles budget rest
      some (item :: items, rest)
    | _ => none

/-- The items of a sequence that is not indented. -/
def indentlessItems? (handles : Handles) : Nat → List Token → Option (List (Node String) × List Token)
  | 0, _ => none
  | budget + 1, tokens =>
    match tokens with
    | .blockEntry :: rest => do
      let (item, rest) ←
        if endsEntry rest || rest.head? = some .blockEntry then some (blank, rest)
        else node? handles budget true false rest
      let (items, rest) ← indentlessItems? handles budget rest
      some (item :: items, rest)
    | rest => some ([], rest)

/-- The entries of a block mapping up to its end. -/
def blockEntries? (handles : Handles) :
    Nat → List Token → Option (List (Node String × Node String) × List Token)
  | 0, _ => none
  | budget + 1, tokens =>
    match tokens with
    | .blockEnd :: rest => some ([], rest)
    | .key :: rest => do
      let (key, rest) ←
        if endsEntry rest then some (blank, rest) else node? handles budget true true rest
      let (value, rest) ← blockValue? handles budget rest
      let (entries, rest) ← blockEntries? handles budget rest
      some ((key, value) :: entries, rest)
    | _ => none

def blockValue? (handles : Handles) : Nat → List Token → Option (Node String × List Token)
  | 0, _ => none
  | budget + 1, tokens =>
    match tokens with
    | .value :: rest => if endsEntry rest then some (blank, rest) else node? handles budget true true rest
    | rest => some (blank, rest)

/-- The items of a flow sequence up to its bracket. Behind the first one each needs a comma. A single entry of
a mapping may stand as an item. -/
def flowItems? (handles : Handles) : Nat → Bool → List Token → Option (List (Node String) × List Token)
  | 0, _, _ => none
  | budget + 1, first, tokens =>
    match tokens with
    | .flowSequenceEnd :: rest => some ([], rest)
    | tokens => do
      let tokens ←
        if first then some tokens
        else match tokens with
          | .flowEntry :: rest => some rest
          | _ => none
      match tokens with
      | .flowSequenceEnd :: rest => some ([], rest)
      | .key :: rest => do
        let (key, rest) ←
          match rest with
          | .value :: rest | .flowEntry :: rest | .flowSequenceEnd :: rest => some (blank, rest)
          | rest => node? handles budget false false rest
        let (value, rest) ←
          match rest with
          | .value :: .flowEntry :: rest => some (blank, .flowEntry :: rest)
          | .value :: .flowSequenceEnd :: rest => some (blank, .flowSequenceEnd :: rest)
          | .value :: rest => node? handles budget false false rest
          | rest => some (blank, rest)
        let (items, rest) ← flowItems? handles budget false rest
        some (.mapping none none [(key, value)] :: items, rest)
      | rest => do
        let (item, rest) ← node? handles budget false false rest
        let (items, rest) ← flowItems? handles budget false rest
        some (item :: items, rest)

/-- The entries of a flow mapping up to its brace. -/
def flowEntries? (handles : Handles) :
    Nat → Bool → List Token → Option (List (Node String × Node String) × List Token)
  | 0, _, _ => none
  | budget + 1, first, tokens =>
    match tokens with
    | .flowMappingEnd :: rest => some ([], rest)
    | tokens => do
      let tokens ←
        if first then some tokens
        else match tokens with
          | .flowEntry :: rest => some rest
          | _ => none
      match tokens with
      | .flowMappingEnd :: rest => some ([], rest)
      | .key :: rest => do
        let (key, rest) ←
          match rest with
          | .value :: _ | .flowEntry :: _ | .flowMappingEnd :: _ => some (blank, rest)
          | rest => node? handles budget false false rest
        let (value, rest) ←
          match rest with
          | .value :: .flowEntry :: rest => some (blank, .flowEntry :: rest)
          | .value :: .flowMappingEnd :: rest => some (blank, .flowMappingEnd :: rest)
          | .value :: rest => node? handles budget false false rest
          | rest => some (blank, rest)
        let (entries, rest) ← flowEntries? handles budget false rest
        some ((key, value) :: entries, rest)
      | rest => do
        let (key, rest) ← node? handles budget false false rest
        let (entries, rest) ← flowEntries? handles budget false rest
        some ((key, blank) :: entries, rest)

end

/-- Directives before a document: at most one version, and each handle once. -/
def directives? (version : Bool) (handles : Handles) : List Token → Option (Handles × List Token)
  | .versionDirective major minor :: rest =>
    if version || major ≠ 1 || (minor ≠ 1 && minor ≠ 2) then none
    else directives? true handles rest
  | .tagDirective handle start :: rest =>
    if (handles.lookup handle).isSome then none
    else directives? version ((handle, start) :: handles) rest
  | rest => some (handles ++ defaultHandles, rest)

/-- No node comes next in a document. -/
def endsDocument : List Token → Bool
  | .versionDirective _ _ :: _ | .tagDirective _ _ :: _ | .documentStart :: _ | .documentEnd :: _
  | .streamEnd :: _ => true
  | _ => false

/-- Nothing but marks of the end. -/
def onlyEnds (tokens : List Token) : Bool :=
  tokens.dropWhile (· = .documentEnd) = [.streamEnd]

/-- The node of a stream with one document, or none if the stream is empty. The first document needs no mark
before it; more than one document is refused. -/
def ofTokens? (tokens : List Token) : Option (Option (Node String)) :=
  let budget := 4 * tokens.length + 4
  match tokens with
  | [.streamEnd] => some none
  | tokens =>
    let explicit := match tokens with
      | .versionDirective _ _ :: _ | .tagDirective _ _ :: _ | .documentStart :: _ => true
      | _ => false
    if explicit then do
      let (handles, rest) ← directives? false [] tokens
      match rest with
      | .documentStart :: rest => do
        let (node, rest) ←
          if endsDocument rest then some (blank, rest) else node? handles budget true false rest
        if onlyEnds rest then some (some node) else none
      | _ => none
    else do
      let (node, rest) ← node? defaultHandles budget true false tokens
      if onlyEnds rest then some (some node) else none

end Node

end ContentAssist.Yaml
