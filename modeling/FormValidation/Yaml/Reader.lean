import FormValidation.Yaml.Scanner

/-!
# Reading YAML

The tokens of a text are put together to one document. A place where a value may stand but none does holds the empty
plain scalar. A text without a document has none to give.
-/

set_option autoImplicit false

namespace FormValidation.Yaml

/-- The scalar that stands for a missing value. -/
def missing : Yaml := .scalar true ""

/-- Whether tokens go on with the end of a block, or with the next key or value of a block map. -/
def endsBlockValue : List Token → Bool
  | .key :: _ => true
  | .value :: _ => true
  | .blockEnd :: _ => true
  | [] => true
  | _ => false

/-- Whether tokens go on with the end of the value of a bracket. -/
def endsFlowValue : List Token → Bool
  | .value :: _ => true
  | .comma :: _ => true
  | .flowListEnd :: _ => true
  | .flowMapEnd :: _ => true
  | _ => false

mutual

/-- Reads a value. In a block, block lists and maps may stand here; as the value of a map also a list that is not
indented. -/
def readNode (block bare : Bool) : Nat → List Token → Except YamlFault (Yaml × List Token)
  | 0, _ => .error .unexpectedToken
  | fuel + 1, tokens =>
    match tokens with
    | .scalar plain text :: rest => .ok (.scalar plain text, rest)
    | .flowListStart :: rest => do
      let (items, rest) ← readFlowItems true fuel rest
      return (.list items, rest)
    | .flowMapStart :: rest => do
      let (entries, rest) ← readFlowEntries true fuel rest
      return (.map entries, rest)
    | .blockListStart :: rest =>
      if block then do
        let (items, rest) ← readBlockItems fuel rest
        return (.list items, rest)
      else .error .unexpectedToken
    | .blockMapStart :: rest =>
      if block then do
        let (entries, rest) ← readBlockEntries fuel rest
        return (.map entries, rest)
      else .error .unexpectedToken
    | .entry :: rest =>
      if bare then do
        let (items, rest) ← readBareItems fuel (.entry :: rest)
        return (.list items, rest)
      else .error .unexpectedToken
    | _ => .error .unexpectedToken

/-- Reads the items of a block list up to its end. -/
def readBlockItems : Nat → List Token → Except YamlFault (List Yaml × List Token)
  | 0, _ => .error .unexpectedToken
  | fuel + 1, tokens =>
    match tokens with
    | .blockEnd :: rest => .ok ([], rest)
    | .entry :: rest => do
      let (item, rest) ← match rest with
        | .entry :: _ => .ok (missing, rest)
        | .blockEnd :: _ => .ok (missing, rest)
        | _ => readNode true false fuel rest
      let (items, rest) ← readBlockItems fuel rest
      return (item :: items, rest)
    | _ => .error .unexpectedToken

/-- Reads the items of a list that is not indented, as long as there are any. -/
def readBareItems : Nat → List Token → Except YamlFault (List Yaml × List Token)
  | 0, _ => .error .unexpectedToken
  | fuel + 1, tokens =>
    match tokens with
    | .entry :: rest => do
      let (item, rest) ← match rest with
        | .entry :: _ => .ok (missing, rest)
        | _ => if endsBlockValue rest then .ok (missing, rest) else readNode true false fuel rest
      let (items, rest) ← readBareItems fuel rest
      return (item :: items, rest)
    | _ => .ok ([], tokens)

/-- Reads the entries of a block map up to its end. -/
def readBlockEntries : Nat → List Token → Except YamlFault (List (Yaml × Yaml) × List Token)
  | 0, _ => .error .unexpectedToken
  | fuel + 1, tokens =>
    match tokens with
    | .blockEnd :: rest => .ok ([], rest)
    | .key :: rest => do
      let (key, rest) ← if endsBlockValue rest then .ok (missing, rest) else readNode true true fuel rest
      let (value, rest) ← match rest with
        | .value :: rest =>
          if endsBlockValue rest then .ok (missing, rest) else readNode true true fuel rest
        | _ => .ok (missing, rest)
      let (entries, rest) ← readBlockEntries fuel rest
      return ((key, value) :: entries, rest)
    | _ => .error .unexpectedToken

/-- Reads the items of a bracketed list up to its end; an item with a colon is a map of one entry. -/
def readFlowItems (first : Bool) : Nat → List Token → Except YamlFault (List Yaml × List Token)
  | 0, _ => .error .unexpectedToken
  | fuel + 1, tokens =>
    match tokens with
    | .flowListEnd :: rest => .ok ([], rest)
    | _ => do
      let tokens ← if first then .ok tokens else match tokens with
        | .comma :: rest => .ok rest
        | _ => .error .unexpectedToken
      match tokens with
      | .flowListEnd :: rest => return ([], rest)
      | .key :: rest =>
        let (entry, rest) ← readFlowEntry fuel rest
        let (items, rest) ← readFlowItems false fuel rest
        return (.map [entry] :: items, rest)
      | _ =>
        let (item, rest) ← readNode false false fuel tokens
        let (items, rest) ← readFlowItems false fuel rest
        return (item :: items, rest)

/-- Reads a key and its value inside brackets. -/
def readFlowEntry : Nat → List Token → Except YamlFault ((Yaml × Yaml) × List Token)
  | 0, _ => .error .unexpectedToken
  | fuel + 1, tokens => do
    let (key, rest) ← if endsFlowValue tokens then .ok (missing, tokens) else readNode false false fuel tokens
    match rest with
    | .value :: rest =>
      let (value, rest) ← if endsFlowValue rest then .ok (missing, rest) else readNode false false fuel rest
      return ((key, value), rest)
    | _ => return ((key, missing), rest)

/-- Reads the entries of a bracketed map up to its end; an entry without a colon has no value. -/
def readFlowEntries (first : Bool) : Nat → List Token → Except YamlFault (List (Yaml × Yaml) × List Token)
  | 0, _ => .error .unexpectedToken
  | fuel + 1, tokens =>
    match tokens with
    | .flowMapEnd :: rest => .ok ([], rest)
    | _ => do
      let tokens ← if first then .ok tokens else match tokens with
        | .comma :: rest => .ok rest
        | _ => .error .unexpectedToken
      match tokens with
      | .flowMapEnd :: rest => return ([], rest)
      | .key :: rest =>
        let (entry, rest) ← readFlowEntry fuel rest
        let (entries, rest) ← readFlowEntries false fuel rest
        return (entry :: entries, rest)
      | _ =>
        let (key, rest) ← readNode false false fuel tokens
        let (entries, rest) ← readFlowEntries false fuel rest
        return ((key, missing) :: entries, rest)

end

/-- The tokens behind the markers that end a document. -/
def skipDocumentEnds : List Token → List Token
  | .documentEnd :: rest => skipDocumentEnds rest
  | tokens => tokens

/-- Reads the content of a document. -/
def readContent (tokens : List Token) : Except YamlFault (Yaml × List Token) :=
  match tokens with
  | [] => .ok (missing, [])
  | .documentStart :: _ => .ok (missing, tokens)
  | .documentEnd :: _ => .ok (missing, tokens)
  | _ => readNode true false (2 * tokens.length + 2) tokens

/-- The document of a text, if there is one. -/
def parse (text : String) : Except YamlFault (Option Yaml) := do
  match skipDocumentEnds (← scan text) with
  | [] => return none
  | tokens =>
    let content := match tokens with
      | .documentStart :: rest => rest
      | _ => tokens
    let (document, rest) ← readContent content
    match skipDocumentEnds rest with
    | [] => return some document
    | .documentStart :: _ => .error .severalDocuments
    | _ => .error .unexpectedToken

end FormValidation.Yaml
