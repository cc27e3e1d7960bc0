import ScreenSight.Yaml.Node
import ScreenSight.Yaml.Token.Lexer

/-!
# YAML documents

The nodes of a document are read from its tokens.  A text holds one document, or none.

The functions that read nodes carry a number of steps, which is never smaller than what the number
of tokens left allows for.
-/

namespace ScreenSight.Yaml

/-- Whether the first of some tokens leaves an entry of a block collection empty. -/
def leavesEmpty : List Token → Bool
  | .key :: _ | .value :: _ | .blockEnd :: _ => true
  | _ => false

/-- Whether the first of some tokens leaves an item of a block sequence empty. -/
def leavesItemEmpty : List Token → Bool
  | .entry :: _ | .blockEnd :: _ => true
  | _ => false

/-- Whether the first of some tokens ends an entry of a flow collection that `closing` ends. -/
def endsFlowEntry (closing : Token) : List Token → Bool
  | [] => false
  | token :: _ => token == .comma || token == closing

mutual

/-- Read a node.  Block collections are only allowed outside of flow collections, and a block
sequence need not be indented behind a key (`compact`). -/
def readNode : Nat → Bool → Bool → List Token → Option (Node × List Token)
  | 0, _, _, _ => none
  | steps + 1, block, compact, tokens =>
      match tokens with
      | .entry :: _ => if compact then readCompactItems steps [] tokens else none
      | .scalar text plain :: rest => some (.scalar text plain, rest)
      | .flowSequenceStart :: rest => readFlowItems steps [] rest
      | .flowMappingStart :: rest => readFlowEntries steps [] rest
      | .sequenceStart :: rest => if block then readItems steps [] rest else none
      | .mappingStart :: rest => if block then readEntries steps [] rest else none
      | _ => none

/-- Read the items of a block sequence, of which some have been read, last one first. -/
def readItems : Nat → List Node → List Token → Option (Node × List Token)
  | steps + 1, items, .entry :: rest =>
      if leavesItemEmpty rest then readItems steps (.missing :: items) rest
      else
        match readNode steps true false rest with
        | some (item, rest) => readItems steps (item :: items) rest
        | none => none
  | _, items, .blockEnd :: rest => some (.sequence items.reverse, rest)
  | _, _, _ => none

/-- Read the items of a block sequence that is not indented, and so ends without a token. -/
def readCompactItems : Nat → List Node → List Token → Option (Node × List Token)
  | 0, _, _ => none
  | steps + 1, items, .entry :: rest =>
      if leavesItemEmpty rest || leavesEmpty rest then
        readCompactItems steps (.missing :: items) rest
      else
        match readNode steps true false rest with
        | some (item, rest) => readCompactItems steps (item :: items) rest
        | none => none
  | _, items, rest => some (.sequence items.reverse, rest)

/-- Read the entries of a block mapping. -/
def readEntries : Nat → List (Node × Node) → List Token → Option (Node × List Token)
  | steps + 1, entries, .key :: rest =>
      match readEntryPart steps rest with
      | some (key, rest) =>
          match readEntryValue steps rest with
          | some (value, rest) => readEntries steps ((key, value) :: entries) rest
          | none => none
      | none => none
  | _, entries, .blockEnd :: rest => some (.mapping entries.reverse, rest)
  | _, _, _ => none

/-- Read the value of an entry of a block mapping, if there is one. -/
def readEntryValue : Nat → List Token → Option (Node × List Token)
  | 0, _ => none
  | steps + 1, .value :: rest => readEntryPart steps rest
  | _, rest => some (.missing, rest)

/-- Read a key or a value of a block mapping. -/
def readEntryPart : Nat → List Token → Option (Node × List Token)
  | 0, _ => none
  | steps + 1, tokens =>
      if leavesEmpty tokens then some (.missing, tokens) else readNode steps true true tokens

/-- Read the items of a flow sequence.  An item may be a single entry. -/
def readFlowItems : Nat → List Node → List Token → Option (Node × List Token)
  | 0, _, _ => none
  | _, items, .flowSequenceEnd :: rest => some (.sequence items.reverse, rest)
  | steps + 1, items, tokens =>
      let item := match tokens with
        | .key :: rest => readFlowItemEntry steps rest
        | _ => readNode steps false false tokens
      match item with
      | some (item, .comma :: rest) => readFlowItems steps (item :: items) rest
      | some (item, .flowSequenceEnd :: rest) => some (.sequence (item :: items).reverse, rest)
      | _ => none

/-- Read an item of a flow sequence that is a single entry, from behind its key token.  The token
that shows a key to be empty belongs to the key. -/
def readFlowItemEntry : Nat → List Token → Option (Node × List Token)
  | 0, _ => none
  | steps + 1, tokens =>
      let key := match tokens with
        | .value :: rest | .comma :: rest | .flowSequenceEnd :: rest => some (.missing, rest)
        | _ => readNode steps false false tokens
      match key with
      | some (key, rest) =>
          (readFlowValue steps .flowSequenceEnd rest).map fun (value, rest) =>
            (.mapping [(key, value)], rest)
      | none => none

def readFlowEntries : Nat → List (Node × Node) → List Token → Option (Node × List Token)
  | 0, _, _ => none
  | _, entries, .flowMappingEnd :: rest => some (.mapping entries.reverse, rest)
  | steps + 1, entries, tokens =>
      let entry := match tokens with
        | .key :: rest => readFlowEntry steps rest
        | _ => (readNode steps false false tokens).map fun (key, rest) => ((key, .missing), rest)
      match entry with
      | some (entry, .comma :: rest) => readFlowEntries steps (entry :: entries) rest
      | some (entry, .flowMappingEnd :: rest) =>
          some (.mapping (entry :: entries).reverse, rest)
      | _ => none

/-- Read an entry of a flow mapping, from behind its key token. -/
def readFlowEntry : Nat → List Token → Option ((Node × Node) × List Token)
  | 0, _ => none
  | steps + 1, tokens =>
      let key := match tokens with
        | .value :: _ => some (.missing, tokens)
        | _ =>
            if endsFlowEntry .flowMappingEnd tokens then some (.missing, tokens)
            else readNode steps false false tokens
      match key with
      | some (key, rest) =>
          (readFlowValue steps .flowMappingEnd rest).map fun (value, rest) => ((key, value), rest)
      | none => none

/-- Read the value of an entry of a flow collection, if there is one. -/
def readFlowValue : Nat → Token → List Token → Option (Node × List Token)
  | 0, _, _ => none
  | steps + 1, closing, .value :: rest =>
      if endsFlowEntry closing rest then some (.missing, rest) else readNode steps false false rest
  | _, _, rest => some (.missing, rest)

end

/-- The document of some tokens; without any token it is a missing node.  Nothing but marks of its
end may stand behind it. -/
def documentOf? (tokens : List Token) : Option Node :=
  let steps := 4 * tokens.length + 4
  let document : Option (Node × List Token) := match tokens with
    | [] => some (.missing, [])
    | .documentStart :: rest =>
        match rest with
        | [] | .documentStart :: _ | .documentEnd :: _ => some (.missing, rest)
        | _ => readNode steps true false rest
    | _ => readNode steps true false tokens
  match document with
  | some (node, rest) =>
      if (rest.dropWhile (· == .documentEnd)).isEmpty then some node else none
  | none => none

def read? (text : String) : Option Node :=
  (tokens? text.toList).bind documentOf?

end ScreenSight.Yaml
