import ApiShell.Yaml.Lexer

/-! The nodes of a YAML document, built from its tokens. -/

namespace ApiShell.Yaml

/-- A node. An entry that has no text of its own is an empty scalar without quotes. -/
inductive Node where
  | scalar (isPlain : Bool) (text : String)
  | sequence (items : List Node)
  | mapping (entries : List (Node × Node))

namespace Node

/-- The node of an entry without text. -/
def empty : Node := .scalar true ""

/-- The fault of tokens that do not go on as they should: what stopped the reading of the text,
where that comes next. -/
def unexpected {α : Type} (reason : Reason) : List Token → Except Fault α
  | .broken fault :: _ => .error fault
  | _ => .error (.malformed reason)

/-- The next token; past the last one the text has ended. -/
def peek : List Token → Token
  | [] => .streamEnd
  | t :: _ => t

mutual

/-- A node, where block collections may start or not. A sequence whose dashes stand in the
column of its key has no start of its own. -/
def parse : Nat → (inBlock indentless : Bool) → List Token → Except Fault (Node × List Token)
  | 0, _, _, tokens => unexpected "expected a node" tokens
  | fuel + 1, inBlock, indentless, tokens =>
    match tokens with
    | .blockEntry :: _ =>
      if indentless then do
        let (items, rest) ← indentlessItems fuel tokens
        pure (.sequence items, rest)
      else unexpected "expected a node" tokens
    | .scalar isPlain text :: rest => pure (.scalar isPlain text, rest)
    | .flowSequenceStart :: rest => do
      let (items, rest) ← flowItems fuel true rest
      pure (.sequence items, rest)
    | .flowMappingStart :: rest => do
      let (entries, rest) ← flowEntries fuel true rest
      pure (.mapping entries, rest)
    | .blockSequenceStart :: rest =>
      if inBlock then do
        let (items, rest) ← blockItems fuel rest
        pure (.sequence items, rest)
      else unexpected "expected a node" tokens
    | .blockMappingStart :: rest =>
      if inBlock then do
        let (entries, rest) ← blockEntries fuel rest
        pure (.mapping entries, rest)
      else unexpected "expected a node" tokens
    | _ => unexpected "expected a node" tokens

/-- The items of a block sequence up to its end. -/
def blockItems : Nat → List Token → Except Fault (List Node × List Token)
  | 0, tokens => unexpected "expected the end of a block" tokens
  | fuel + 1, tokens =>
    match tokens with
    | .blockEntry :: rest => do
      let (item, rest) ← match peek rest with
        | .blockEntry | .blockEnd => pure (empty, rest)
        | _ => parse fuel true false rest
      let (items, rest) ← blockItems fuel rest
      pure (item :: items, rest)
    | .blockEnd :: rest => pure ([], rest)
    | _ => unexpected "expected the end of a block" tokens

/-- The items of a sequence whose dashes stand in the column of its key. -/
def indentlessItems : Nat → List Token → Except Fault (List Node × List Token)
  | 0, tokens => pure ([], tokens)
  | fuel + 1, tokens =>
    match tokens with
    | .blockEntry :: rest => do
      let (item, rest) ← match peek rest with
        | .blockEntry | .key | .value | .blockEnd => pure (empty, rest)
        | _ => parse fuel true false rest
      let (items, rest) ← indentlessItems fuel rest
      pure (item :: items, rest)
    | _ => pure ([], tokens)

/-- The entries of a block mapping up to its end. -/
def blockEntries : Nat → List Token → Except Fault (List (Node × Node) × List Token)
  | 0, tokens => unexpected "expected the end of a block" tokens
  | fuel + 1, tokens =>
    match tokens with
    | .key :: rest => do
      let (key, rest) ← match peek rest with
        | .key | .value | .blockEnd => pure (empty, rest)
        | _ => parse fuel true true rest
      let (value, rest) ← blockValue fuel rest
      let (entries, rest) ← blockEntries fuel rest
      pure ((key, value) :: entries, rest)
    | .blockEnd :: rest => pure ([], rest)
    | _ => unexpected "expected the end of a block" tokens

/-- The value of an entry of a block mapping. -/
def blockValue : Nat → List Token → Except Fault (Node × List Token)
  | 0, tokens => pure (empty, tokens)
  | fuel + 1, tokens =>
    match tokens with
    | .value :: rest =>
      match peek rest with
      | .key | .value | .blockEnd => pure (empty, rest)
      | _ => parse fuel true true rest
    | _ => pure (empty, tokens)

/-- The items of a flow sequence up to its bracket. An item may be a single entry. -/
def flowItems : Nat → (isFirst : Bool) → List Token → Except Fault (List Node × List Token)
  | 0, _, tokens => unexpected "expected a comma or a closing bracket" tokens
  | fuel + 1, isFirst, tokens => do
    match tokens with
    | .flowSequenceEnd :: rest => pure ([], rest)
    | _ =>
      let tokens ←
        if isFirst then pure tokens
        else match tokens with
          | .flowEntry :: rest => pure rest
          | _ => unexpected "expected a comma or a closing bracket" tokens
      match tokens with
      | .flowSequenceEnd :: rest => pure ([], rest)
      | .key :: rest => do
        let (key, rest) ← match peek rest with
          | .value | .flowEntry | .flowSequenceEnd => pure (empty, rest)
          | _ => parse fuel false false rest
        let (value, rest) ← flowValue fuel .flowSequenceEnd rest
        let (items, rest) ← flowItems fuel false rest
        pure (.mapping [(key, value)] :: items, rest)
      | _ => do
        let (item, rest) ← parse fuel false false tokens
        let (items, rest) ← flowItems fuel false rest
        pure (item :: items, rest)

/-- The value of an entry in a flow collection that the given token would end. -/
def flowValue : Nat → Token → List Token → Except Fault (Node × List Token)
  | 0, _, tokens => pure (empty, tokens)
  | fuel + 1, last, tokens =>
    match tokens with
    | .value :: rest =>
      if peek rest = .flowEntry ∨ peek rest = last then pure (empty, rest)
      else parse fuel false false rest
    | _ => pure (empty, tokens)

/-- The entries of a flow mapping up to its brace. -/
def flowEntries : Nat → (isFirst : Bool) → List Token →
    Except Fault (List (Node × Node) × List Token)
  | 0, _, tokens => unexpected "expected a comma or a closing brace" tokens
  | fuel + 1, isFirst, tokens => do
    match tokens with
    | .flowMappingEnd :: rest => pure ([], rest)
    | _ =>
      let tokens ←
        if isFirst then pure tokens
        else match tokens with
          | .flowEntry :: rest => pure rest
          | _ => unexpected "expected a comma or a closing brace" tokens
      match tokens with
      | .flowMappingEnd :: rest => pure ([], rest)
      | .key :: rest => do
        let (key, rest) ← match peek rest with
          | .value | .flowEntry | .flowMappingEnd => pure (empty, rest)
          | _ => parse fuel false false rest
        let (value, rest) ← flowValue fuel .flowMappingEnd rest
        let (entries, rest) ← flowEntries fuel false rest
        pure ((key, value) :: entries, rest)
      | _ => do
        let (key, rest) ← parse fuel false false tokens
        let (entries, rest) ← flowEntries fuel false rest
        pure ((key, empty) :: entries, rest)

end

/-- Passes over directives. At most one gives the language version, whose major number is one, and
no handle is named twice. -/
def skipDirectives (versioned : Bool) (handles : List String) :
    List Token → Except Fault (List Token)
  | .directive (.version major) :: rest =>
    if versioned then .error (.malformed "repeated language version")
    else if major = 1 then skipDirectives true handles rest
    else .error (.malformed "incompatible language version")
  | .directive (.tagHandle handle) :: rest =>
    if handles.contains handle then .error (.malformed "repeated handle")
    else skipDirectives versioned (handle :: handles) rest
  | .directive .other :: rest => skipDirectives versioned handles rest
  | tokens => pure tokens

/-- The tokens behind the end marks of a document. -/
def skipEnds : List Token → List Token
  | .documentEnd :: rest => skipEnds rest
  | tokens => tokens

/-- The content of a document. -/
def content (fuel : Nat) (tokens : List Token) : Except Fault (Node × List Token) :=
  match peek tokens with
  | .directive _ | .documentStart | .documentEnd | .streamEnd => pure (empty, tokens)
  | _ => parse fuel true false tokens

/-- The tokens behind the directives and the mark that start a document. -/
def documentBody (tokens : List Token) : Except Fault (List Token) := do
  match ← skipDirectives false [] tokens with
  | .documentStart :: rest => pure rest
  | rest => unexpected "expected the start of a document" rest

/-- The only document of a stream; an empty stream has none. -/
def ofTokens (tokens : List Token) : Except Fault (Option Node) := do
  let fuel := 2 * tokens.length + 2
  match peek tokens with
  | .streamEnd => pure none
  | start =>
    let (node, rest) ← match start with
      | .directive _ | .documentStart => do content fuel (← documentBody tokens)
      | _ => parse fuel true false tokens
    match skipEnds rest with
    | .streamEnd :: _ => pure (some node)
    | rest => do
      let _ ← documentBody rest
      .error (.malformed "expected a single document")

end Node

end ApiShell.Yaml
