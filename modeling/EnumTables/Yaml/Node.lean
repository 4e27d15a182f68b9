import EnumTables.Yaml.Tag
import EnumTables.Yaml.Token

/-!
Nodes: YAML documents as trees of scalars, sequences and mappings. An alias stands for the node
with its anchor. Inside a node its own alias stands for a collection of the same kind without
parts.
-/

namespace EnumTables.Yaml

inductive Node where
  | scalar (tag : Tag) (text : String)
  | sequence (tag : Tag) (items : List Node)
  | mapping (tag : Tag) (entries : List (Node × Node))

/-- The place of a node in the data that is built: the numbers of the parts that lead to it, the
last one first. There are as many as rounds before it is built. -/
abbrev Spot := List Nat

/-- What reading depends on beside the text: how deep calls may nest, and the order in which a set
gives its elements. Calls nest for the levels of a document, and while a part is built for merges
and defaults that lead to others. -/
structure Runtime where
  hasRoom : (depth : Nat) → (ahead : List Token) → Bool
  hasRoomFor : (document : Node) → (part : Spot) → Bool
  order : List Value → List Value
  hasRoom_shallow : ∀ depth ahead, depth < 3 → hasRoom depth ahead = true
  order_perm : ∀ items, (order items).Perm items

namespace Runtime

def overflow : Raised :=
  ⟨"RecursionError", "maximum recursion depth exceeded"⟩

/-- A runtime in which documents may have the given number of levels, three at least, and sets keep
the order in which they are written. -/
def ofLevels (levels : Nat) : Runtime where
  hasRoom depth _ := decide (depth < levels + 3)
  hasRoomFor _ _ := true
  order := id
  hasRoom_shallow _ _ h := by simpa using Nat.lt_add_left levels h
  order_perm items := .refl items

end Runtime

structure TokenStream where
  tokens : List Token
  anchors : List (String × Node)

structure Context where
  runtime : Runtime
  handles : List (String × String)

structure NodeHead where
  anchor : Option String
  tag : Option String

inductive NodePlace where
  | block
  /-- A value of a block mapping, whose sequence need not be indented. -/
  | blockValue
  | flow
  deriving DecidableEq

namespace NodePlace

def allowsBlocks (place : NodePlace) : Bool :=
  place != .flow

end NodePlace

namespace Node

def empty : Node := .scalar .null ""

def scalarTag (given : Option String) (isPlain : Bool) (text : String) : Tag :=
  match given with
  | none => if isPlain then .ofPlain text else .text
  | some name => if name = "!" then .ofPlain text else .ofName name

def collectionTag (given : Option String) (usual : Tag) : Tag :=
  match given with
  | none => usual
  | some name => if name = "!" then usual else .ofName name

def knownHandles : List (String × String) :=
  [("!", "!"), ("!!", Tag.standardStem)]

def tagName (handles : List (String × String)) (handle : Option String) (rest : String) :
    Except ReadError String :=
  match handle with
  | none => .ok rest
  | some handle => match handles.lookup handle with
    | some stem => .ok (stem ++ rest)
    | none => .error .malformed

/-- Tokens that stand where none of them can: what could not be read of the text comes first. -/
def unexpected {α : Type} : List Token → Except ReadError α
  | .unreadable error :: _ => .error error
  | _ => .error .malformed

/-- What could not be read of the text, if that is where the tokens stand. -/
def readable : List Token → Except ReadError Unit
  | .unreadable error :: _ => .error error
  | _ => .ok ()

def readHead (handles : List (String × String)) (tokens : List Token) :
    Except ReadError (NodeHead × List Token) := do
  match tokens with
  | .anchor name :: .tag handle suffix :: rest =>
    return (⟨some name, some (← tagName handles handle suffix)⟩, rest)
  | .anchor name :: rest => return (⟨some name, none⟩, rest)
  | .tag handle suffix :: .anchor name :: rest =>
    return (⟨some name, some (← tagName handles handle suffix)⟩, rest)
  | .tag handle suffix :: rest => do
    readable rest
    return (⟨none, some (← tagName handles handle suffix)⟩, rest)
  | tokens => return (⟨none, none⟩, tokens)

def note (anchor : Option String) (node : Node) (stream : TokenStream) : TokenStream :=
  match anchor with
  | none => stream
  | some name => { stream with anchors := (name, node) :: stream.anchors }

def finish {α : Type} (anchor : Option String) (make : List α → Node)
    (parsed : Except ReadError (List α × TokenStream)) : Except ReadError (Node × TokenStream) := do
  let (parts, stream) ← parsed
  let node := make parts
  return (node, note anchor node stream)

mutual

def read (context : Context) (place : NodePlace) (depth : Nat) :
    Nat → TokenStream → Except ReadError (Node × TokenStream)
  | 0, _ => .error .malformed
  | fuel + 1, stream =>
    if !context.runtime.hasRoom depth stream.tokens then .error (.exception Runtime.overflow)
    else match stream.tokens with
      | .alias name :: rest => match stream.anchors.lookup name with
        | some node => .ok (node, { stream with tokens := rest })
        | none => .error .malformed
      | tokens => do
        let (head, tokens) ← readHead context.handles tokens
        readable tokens
        if (head.anchor.bind fun name => stream.anchors.lookup name).isSome then .error .malformed
        else readContent context place depth head fuel { stream with tokens := tokens }
termination_by structural fuel => fuel

def readContent (context : Context) (place : NodePlace) (depth : Nat) (head : NodeHead) :
    Nat → TokenStream → Except ReadError (Node × TokenStream)
  | 0, _ => .error .malformed
  | fuel + 1, stream =>
    let anchored (tag : Tag) : Tag := tag.anchored head.anchor
    let sequence : List Node → Node := .sequence (anchored (collectionTag head.tag .sequence))
    let mapping : List (Node × Node) → Node := .mapping (anchored (collectionTag head.tag .mapping))
    let inside (make : Tag → Node) (usual : Tag) (rest : List Token) : TokenStream :=
      note head.anchor (make (anchored (collectionTag head.tag usual)).seenInside)
        { stream with tokens := rest }
    let insideSequence := inside (.sequence · []) .sequence
    let insideMapping := inside (.mapping · []) .mapping
    let leaf (node : Node) (rest : List Token) : Except ReadError (Node × TokenStream) :=
      .ok (node, note head.anchor node { stream with tokens := rest })
    let absent (_ : Unit) : Except ReadError (Node × TokenStream) :=
      if head.anchor.isSome || head.tag.isSome then
        leaf (.scalar (anchored (scalarTag head.tag true "")) "") stream.tokens
      else .error .malformed
    match stream.tokens with
    | .scalar text isPlain :: rest =>
      leaf (.scalar (anchored (scalarTag head.tag isPlain text)) text) rest
    | .flowSequenceStart :: rest =>
      finish head.anchor sequence (readFlowItems context (depth + 1) true fuel (insideSequence rest))
    | .flowMappingStart :: rest =>
      finish head.anchor mapping (readFlowEntries context (depth + 1) true fuel (insideMapping rest))
    | .blockSequenceStart :: rest =>
      if place.allowsBlocks then
        finish head.anchor sequence (readItems context (depth + 1) fuel (insideSequence rest))
      else absent ()
    | .blockMappingStart :: rest =>
      if place.allowsBlocks then
        finish head.anchor mapping (readEntries context (depth + 1) fuel (insideMapping rest))
      else absent ()
    | .blockEntry :: _ =>
      if place = .blockValue then
        finish head.anchor sequence
          (readOpenItems context (depth + 1) fuel (insideSequence stream.tokens))
      else absent ()
    | _ => absent ()
termination_by structural fuel => fuel

def readItems (context : Context) (depth : Nat) :
    Nat → TokenStream → Except ReadError (List Node × TokenStream)
  | 0, _ => .error .malformed
  | fuel + 1, stream => match stream.tokens with
    | .blockEntry :: rest => do
      let stream := { stream with tokens := rest }
      let (item, stream) ← match rest with
        | .blockEntry :: _ | .blockEnd :: _ => .ok (empty, stream)
        | _ => read context .block depth fuel stream
      let (items, stream) ← readItems context depth fuel stream
      return (item :: items, stream)
    | .blockEnd :: rest => .ok ([], { stream with tokens := rest })
    | tokens => unexpected tokens
termination_by structural fuel => fuel

def readOpenItems (context : Context) (depth : Nat) :
    Nat → TokenStream → Except ReadError (List Node × TokenStream)
  | 0, _ => .error .malformed
  | fuel + 1, stream => match stream.tokens with
    | .blockEntry :: rest => do
      let stream := { stream with tokens := rest }
      let (item, stream) ← match rest with
        | .blockEntry :: _ | .key :: _ | .value :: _ | .blockEnd :: _ => .ok (empty, stream)
        | _ => read context .block depth fuel stream
      let (items, stream) ← readOpenItems context depth fuel stream
      return (item :: items, stream)
    | _ => .ok ([], stream)
termination_by structural fuel => fuel

def readEntries (context : Context) (depth : Nat) :
    Nat → TokenStream → Except ReadError (List (Node × Node) × TokenStream)
  | 0, _ => .error .malformed
  | fuel + 1, stream => match stream.tokens with
    | .key :: rest => do
      let stream := { stream with tokens := rest }
      let (key, stream) ← match rest with
        | .key :: _ | .value :: _ | .blockEnd :: _ => .ok (empty, stream)
        | _ => read context .blockValue depth fuel stream
      let (value, stream) ← match stream.tokens with
        | .value :: rest =>
          let stream := { stream with tokens := rest }
          match rest with
          | .key :: _ | .value :: _ | .blockEnd :: _ => .ok (empty, stream)
          | _ => read context .blockValue depth fuel stream
        | _ => .ok (empty, stream)
      let (entries, stream) ← readEntries context depth fuel stream
      return ((key, value) :: entries, stream)
    | .blockEnd :: rest => .ok ([], { stream with tokens := rest })
    | tokens => unexpected tokens
termination_by structural fuel => fuel

/-- Reads the items of a flow sequence; all but the first follow a comma. A key among them starts
a mapping with one entry. -/
def readFlowItems (context : Context) (depth : Nat) (isFirst : Bool) :
    Nat → TokenStream → Except ReadError (List Node × TokenStream)
  | 0, _ => .error .malformed
  | fuel + 1, stream =>
    let item (tokens : List Token) : Except ReadError (List Node × TokenStream) := do
      let stream := { stream with tokens := tokens }
      let (item, stream) ← match tokens with
        | .key :: rest => do
          let (entry, stream) ←
            readFlowEntry context (depth + 1) true fuel { stream with tokens := rest }
          pure (.mapping .mapping [entry], stream)
        | _ => read context .flow depth fuel stream
      let (items, stream) ← readFlowItems context depth false fuel stream
      return (item :: items, stream)
    match stream.tokens with
    | .flowSequenceEnd :: rest => .ok ([], { stream with tokens := rest })
    | .flowEntry :: rest =>
      if isFirst then .error .malformed
      else match rest with
        | .flowSequenceEnd :: rest => .ok ([], { stream with tokens := rest })
        | _ => item rest
    | tokens => if isFirst then item tokens else unexpected tokens
termination_by structural fuel => fuel

def readFlowEntry (context : Context) (depth : Nat) (inSequence : Bool) :
    Nat → TokenStream → Except ReadError ((Node × Node) × TokenStream)
  | 0, _ => .error .malformed
  | fuel + 1, stream => do
    let ends (token : Token) : Bool :=
      token == .flowEntry || token == (if inSequence then .flowSequenceEnd else .flowMappingEnd)
    let (key, stream) ←
      if stream.tokens.head?.any fun token => token == .value || ends token then .ok (empty, stream)
      else read context .flow depth fuel stream
    let (value, stream) ← match stream.tokens with
      | .value :: rest =>
        let stream := { stream with tokens := rest }
        if rest.head?.any ends then .ok (empty, stream) else read context .flow depth fuel stream
      | _ => .ok (empty, stream)
    return ((key, value), stream)
termination_by structural fuel => fuel

/-- Reads the entries of a flow mapping; all but the first follow a comma. A node that is no key
has an empty value. -/
def readFlowEntries (context : Context) (depth : Nat) (isFirst : Bool) :
    Nat → TokenStream → Except ReadError (List (Node × Node) × TokenStream)
  | 0, _ => .error .malformed
  | fuel + 1, stream =>
    let entry (tokens : List Token) : Except ReadError (List (Node × Node) × TokenStream) := do
      let stream := { stream with tokens := tokens }
      let (entry, stream) ← match tokens with
        | .key :: rest => readFlowEntry context depth false fuel { stream with tokens := rest }
        | _ => do
          let (key, stream) ← read context .flow depth fuel stream
          pure ((key, empty), stream)
      let (entries, stream) ← readFlowEntries context depth false fuel stream
      return (entry :: entries, stream)
    match stream.tokens with
    | .flowMappingEnd :: rest => .ok ([], { stream with tokens := rest })
    | .flowEntry :: rest =>
      if isFirst then .error .malformed
      else match rest with
        | .flowMappingEnd :: rest => .ok ([], { stream with tokens := rest })
        | _ => entry rest
    | tokens => if isFirst then entry tokens else unexpected tokens
termination_by structural fuel => fuel

end

/-! ## Documents -/

structure Directives where
  version : Option (Nat × Nat)
  handles : List (String × String)

/-- Reads directives. A version or a handle is not given twice, and the major version is one. -/
def readDirectives (directives : Directives) :
    List Token → Except ReadError (Directives × List Token)
  | .version major minor :: rest =>
    if directives.version.isSome || major != 1 then .error .malformed
    else readDirectives { directives with version := some (major, minor) } rest
  | .tagHandle handle stem :: rest =>
    if (directives.handles.lookup handle).isSome then .error .malformed
    else readDirectives { directives with handles := directives.handles ++ [(handle, stem)] } rest
  | .otherDirective :: rest => readDirectives directives rest
  | tokens => .ok (directives, tokens)

def enough (tokens : List Token) : Nat :=
  4 * tokens.length + 4

def readEnd : List Token → Except ReadError Unit
  | .documentEnd :: rest => readEnd rest
  | [.streamEnd] => .ok ()
  | tokens => do
    let (_, rest) ← readDirectives ⟨none, []⟩ tokens
    unexpected rest

def readOnly (context : Context) (tokens : List Token) : Except ReadError Node := do
  let (node, stream) ← read context .block 0 (enough tokens) ⟨tokens, []⟩
  readEnd stream.tokens
  return node

def isBetween : Token → Bool
  | .version .. | .tagHandle .. | .otherDirective => true
  | .documentStart | .documentEnd | .streamEnd => true
  | _ => false

def ofTokens? (runtime : Runtime) (tokens : List Token) : Except ReadError (Option Node) := do
  match tokens with
  | [.streamEnd] => return none
  | first :: _ =>
    if isBetween first && first != .documentEnd then
      let (directives, rest) ← readDirectives ⟨none, []⟩ tokens
      match rest with
      | .documentStart :: rest =>
        if rest.head?.any isBetween then
          readEnd rest
          return some empty
        else return some (← readOnly ⟨runtime, directives.handles ++ knownHandles⟩ rest)
      | rest => unexpected rest
    else return some (← readOnly ⟨runtime, knownHandles⟩ tokens)
  | [] => .error .malformed

end Node

end EnumTables.Yaml
