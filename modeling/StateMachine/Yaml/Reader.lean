import StateMachine.Yaml.Node

/-!
Reading YAML text. A text holds one document; directives may stand before it. An empty text reads as
an empty scalar.
-/

set_option autoImplicit false

namespace StateMachine.Yaml

abbrev Handles := List (String × Tag)

/-- The tag behind a handle; one in full has none. -/
def Tag.resolve? (handles : Handles) (handle : String) (suffix : Tag) : Option Tag :=
  if handle = "" then some suffix else (handles.lookup handle).map (· ++ suffix)

/-- Reads an anchor and a tag, in either order. -/
def readProperties? (handles : Handles) (tokens : List Token) :
    Option (Properties String × List Token) :=
  match tokens with
  | .anchor name :: .tag handle suffix :: rest | .tag handle suffix :: .anchor name :: rest =>
      (Tag.resolve? handles handle suffix).map fun tag => (⟨some name, some tag⟩, rest)
  | .anchor name :: rest => some (⟨some name, none⟩, rest)
  | .tag handle suffix :: rest =>
      (Tag.resolve? handles handle suffix).map fun tag => (⟨none, some tag⟩, rest)
  | _ => some (Properties.empty, tokens)

/-- Holds when a node has ended before it began: the next token belongs to what surrounds it. -/
def endsBlock (tokens : List Token) : Bool :=
  match tokens with
  | .key :: _ | .value :: _ | .blockEnd :: _ => true
  | _ => false

def endsFlowPart (tokens : List Token) : Bool :=
  match tokens with
  | .value :: _ | .comma :: _ | .flowRecordEnd :: _ => true
  | _ => false

def endsFlowItem (tokens : List Token) : Bool :=
  match tokens with
  | .value :: _ | .comma :: _ | .flowListEnd :: _ => true
  | _ => false

/-! Each reader below takes the tokens of its construct and gives what is left; `fuel` bounds the number
of steps. -/

mutual

/-- Reads a node. Block collections stand only outside of flow collections; a list that is not
indented stands only as a part of a record. Behind properties the content may be missing. -/
def readNode? (handles : Handles) :
    Nat → Bool → Bool → List Token → Option (Node String × List Token)
  | 0, _, _, _ => none
  | fuel + 1, inBlock, unindented, tokens => do
      if let .alias name :: rest := tokens then return (.alias name, rest)
      let (properties, content) ← readProperties? handles tokens
      match content, inBlock, unindented with
      | .scalar text style :: rest, _, _ => return (.scalar properties text style, rest)
      | .flowList :: rest, _, _ =>
          let (items, after) ← readFlowItems? handles fuel true rest
          return (.list properties items, after)
      | .flowRecord :: rest, _, _ =>
          let (pairs, after) ← readFlowParts? handles fuel true rest
          return (.record properties pairs, after)
      | .dash :: _, _, true =>
          let (items, after) ← readUnindented? handles fuel content
          return (.list properties items, after)
      | .blockList :: rest, true, _ =>
          let (items, after) ← readItems? handles fuel rest
          return (.list properties items, after)
      | .blockRecord :: rest, true, _ =>
          let (pairs, after) ← readParts? handles fuel rest
          return (.record properties pairs, after)
      | _, _, _ =>
          if properties.isEmpty then none else return (.scalar properties "" .plain, content)

def readItems? (handles : Handles) : Nat → List Token → Option (List (Node String) × List Token)
  | 0, _ => none
  | fuel + 1, tokens =>
      match tokens with
      | .dash :: rest => do
          let (item, after) ←
            match rest with
            | .dash :: _ | .blockEnd :: _ => some (.empty, rest)
            | _ => readNode? handles fuel true false rest
          let (items, remaining) ← readItems? handles fuel after
          return (item :: items, remaining)
      | .blockEnd :: rest => some ([], rest)
      | _ => none

/-- Reads the items of a list that stands at the column of the record around it. -/
def readUnindented? (handles : Handles) :
    Nat → List Token → Option (List (Node String) × List Token)
  | 0, _ => none
  | fuel + 1, tokens =>
      match tokens with
      | .dash :: rest => do
          let isEmpty :=
            endsBlock rest ||
              match rest with
              | .dash :: _ => true
              | _ => false
          let (item, after) ←
            if isEmpty then some (.empty, rest) else readNode? handles fuel true false rest
          let (items, remaining) ← readUnindented? handles fuel after
          return (item :: items, remaining)
      | _ => some ([], tokens)

def readParts? (handles : Handles) :
    Nat → List Token → Option (List (Node String × Node String) × List Token)
  | 0, _ => none
  | fuel + 1, tokens =>
      match tokens with
      | .key :: rest => do
          let (name, afterName) ←
            if endsBlock rest then some (.empty, rest) else readNode? handles fuel true true rest
          let (part, after) ←
            match afterName with
            | .value :: behind =>
                if endsBlock behind then some (.empty, behind)
                else readNode? handles fuel true true behind
            | _ => some (.empty, afterName)
          let (pairs, remaining) ← readParts? handles fuel after
          return ((name, part) :: pairs, remaining)
      | .blockEnd :: rest => some ([], rest)
      | _ => none

/-- Reads the items of a flow list up to its bracket; a pair of a name and a part is a record of its
own. Where the name is missing behind a question mark, the mark or bracket in its place goes with
it. -/
def readFlowItems? (handles : Handles) :
    Nat → Bool → List Token → Option (List (Node String) × List Token)
  | 0, _, _ => none
  | fuel + 1, isFirst, tokens =>
      match tokens with
      | .flowListEnd :: rest => some ([], rest)
      | _ => do
          let begun ←
            if isFirst then some tokens
            else
              match tokens with
              | .comma :: rest => some rest
              | _ => none
          match begun with
          | .flowListEnd :: rest => return ([], rest)
          | .key :: rest =>
              let (name, afterName) ←
                if endsFlowItem rest then some (.empty, rest.tail)
                else readNode? handles fuel false false rest
              let (part, after) ←
                match afterName with
                | .value :: behind =>
                    match behind with
                    | .comma :: _ | .flowListEnd :: _ => some (.empty, behind)
                    | _ => readNode? handles fuel false false behind
                | _ => some (.empty, afterName)
              let (items, remaining) ← readFlowItems? handles fuel false after
              return (.record Properties.empty [(name, part)] :: items, remaining)
          | _ =>
              let (item, after) ← readNode? handles fuel false false begun
              let (items, remaining) ← readFlowItems? handles fuel false after
              return (item :: items, remaining)

/-- Reads the parts of a flow record up to its brace; a name may stand without a part. -/
def readFlowParts? (handles : Handles) :
    Nat → Bool → List Token → Option (List (Node String × Node String) × List Token)
  | 0, _, _ => none
  | fuel + 1, isFirst, tokens =>
      match tokens with
      | .flowRecordEnd :: rest => some ([], rest)
      | _ => do
          let begun ←
            if isFirst then some tokens
            else
              match tokens with
              | .comma :: rest => some rest
              | _ => none
          match begun with
          | .flowRecordEnd :: rest => return ([], rest)
          | .key :: rest =>
              let (name, afterName) ←
                if endsFlowPart rest then some (.empty, rest)
                else readNode? handles fuel false false rest
              let (part, after) ←
                match afterName with
                | .value :: behind =>
                    match behind with
                    | .comma :: _ | .flowRecordEnd :: _ => some (.empty, behind)
                    | _ => readNode? handles fuel false false behind
                | _ => some (.empty, afterName)
              let (pairs, remaining) ← readFlowParts? handles fuel false after
              return ((name, part) :: pairs, remaining)
          | _ =>
              let (name, after) ← readNode? handles fuel false false begun
              let (pairs, remaining) ← readFlowParts? handles fuel false after
              return ((name, .empty) :: pairs, remaining)

end

/-- Handles that need no directive. -/
def defaultHandles : Handles := [("!", Tag.bare), ("!!", Tag.core)]

/-- Reads the directives in front of a document: at most one version, and each handle once. -/
def readDirectives? (versioned : Bool) (handles : Handles) :
    List Token → Option (Handles × List Token)
  | .directive (.version major minor) :: rest =>
      if !versioned && major == 1 && (minor == 1 || minor == 2) then
        readDirectives? true handles rest
      else none
  | .directive (.handle name expansion) :: rest =>
      if (handles.lookup name).isSome then none
      else readDirectives? versioned ((name, expansion) :: handles) rest
  | tokens => some (handles, tokens)

/-- Reads the node of the only document. Marks of its end may follow, another document may not. -/
def readDocument? (tokens : List Token) : Option (Node String) := do
  let (given, behind) ← readDirectives? false [] tokens
  let handles := given ++ defaultHandles
  let fuel := 2 * tokens.length + 2
  let (node, rest) ←
    match tokens, behind with
    | [], _ => some (.empty, [])
    | _, .documentStart :: body =>
        match body with
        | [] | .documentStart :: _ | .documentEnd :: _ => some (.empty, body)
        | _ => readNode? handles fuel true false body
    | .directive _ :: _, _ => none
    | _, _ => readNode? handles fuel true false tokens
  if rest.all (· == .documentEnd) then return node else none

def isAllowed (character : Char) : Bool :=
  let code := character.toNat
  code == 0x09 || code == 0x0A || code == 0x0D || (0x20 ≤ code && code ≤ 0x7E) || code == 0x85 ||
    (0xA0 ≤ code && code ≤ 0xFFFD) || 0x10000 ≤ code

/-- Writes every line end of the usual kinds as a line feed. -/
def unifyBreaks : List Char → List Char
  | [] => []
  | '\r' :: '\n' :: rest => '\n' :: unifyBreaks rest
  | '\r' :: rest => '\n' :: unifyBreaks rest
  | '\u0085' :: rest => '\n' :: unifyBreaks rest
  | character :: rest => character :: unifyBreaks rest

def parse? (text : String) : Option Tree := do
  let characters := text.toList
  if characters.all isAllowed then
    Tree.ofNode? (← readDocument? (← tokens? (unifyBreaks characters)))
  else none

end StateMachine.Yaml
