import AlertRouting.Yaml.Scanner

/-!
# Documents of YAML

A document is a tree of nodes with aliases, which stand for other nodes of the document, perhaps for
one that they are inside of.
-/
namespace AlertRouting.Yaml

inductive Node
  | scalar (tag : Option String) (text : String) (style : Style)
  | sequence (items : List Node)
  | mapping (entries : List (Node × Node))
  | alias (slot : Nat)
deriving Inhabited, Repr

def Node.nothing : Node := .scalar none "" .plain

/-- A document. An alias names a slot, a slot the number of a node, and the nodes that can be named
are listed by their numbers. -/
structure Document where
  root : Node
  slots : List (Nat × Nat)
  anchored : List (Nat × Node)
  /-- The size of the document, where a collection counts twice. -/
  size : Nat

def Document.target? (d : Document) (slot : Nat) : Option Node :=
  (d.slots.lookup slot).bind fun n => d.anchored.lookup n

/-- The tokens that are left, and what is known of the document so far. -/
structure Composer where
  tokens : List Token
  size : Nat
  /-- The slots of anchors, the latest first. -/
  names : List (String × Nat)
  slots : List (Nat × Nat)
  anchored : List (Nat × Node)
  prefixes : List (String × String)

/-- The slot of a new anchor is the number of different anchors before it. An anchor that is set again
takes a new slot, but the number does not grow, so the slot can be shared with the next anchor. -/
def Composer.anchor (s : Composer) (name : String) : Composer :=
  let slot := s.names.length
  { s with
    names := (name, slot) :: s.names.filter (·.1 != name)
    slots := (slot, s.size) :: s.slots }

/-- The anchor and the tag in front of a node, in either order. -/
structure Properties where
  anchor : Option String
  tag : Option (String × String)

def Properties.read : List Token → Properties × List Token
  | .anchor a :: .tag h t :: rest => (⟨some a, some (h, t)⟩, rest)
  | .anchor a :: rest => (⟨some a, none⟩, rest)
  | .tag h t :: .anchor a :: rest => (⟨some a, some (h, t)⟩, rest)
  | .tag h t :: rest => (⟨none, some (h, t)⟩, rest)
  | rest => (⟨none, none⟩, rest)

/-- The full tag: a handle stands for a prefix, which has to be known. -/
def Composer.fullTag? (s : Composer) : Option (String × String) → Option (Option String)
  | none => some none
  | some (handle, suffix) =>
    if handle.isEmpty then some (some suffix)
    else (s.prefixes.lookup handle).map fun p => some (p ++ suffix)

/-- The tag of a scalar; a single exclamation mark is as good as none. -/
def scalarTag (tag : Option String) : Option String := tag.filter (· != "!")

namespace Composer

def grow (s : Composer) (n : Nat) : Composer := { s with size := s.size + n }

/-- Begins a node: notes its anchor, counts the node, and goes on to its content. -/
def enter (s : Composer) (anchor : Option String) (tokens : List Token) (size : Nat) : Composer :=
  let s := match anchor with
    | some a => s.anchor a
    | none => s
  { s.grow size with tokens := tokens }

/-- Ends a node: lists it under its number if it has an anchor. -/
def leave (s : Composer) (anchor : Option String) (number : Nat) (n : Node) : Composer :=
  if anchor.isSome then { s with anchored := (number, n) :: s.anchored } else s

def empty (s : Composer) : Node × Composer := (.nothing, s.grow 1)

end Composer

/-- Tokens that end the value, key or item in front of them. -/
def endsBlockNode (indentless : Bool) : List Token → Bool
  | [] => true
  | .blockEnd :: _ => true
  | .blockEntry :: _ => true
  | .key :: _ => indentless
  | .value :: _ => indentless
  | _ => false

def endsMappingNode : List Token → Bool
  | .key :: _ => true
  | .value :: _ => true
  | .blockEnd :: _ => true
  | _ => false

def endsFlowNode (closing : Token) : List Token → Bool
  | .flowEntry :: _ => true
  | t :: _ => t = closing
  | [] => false

mutual

/-- Reads a node. `block` tells that block collections may stand here, `indentless` that a sequence
may stand here without an indentation of its own. The fuel bounds how deep the reader calls itself. -/
def node? (block indentless : Bool) : Nat → Composer → Option (Node × Composer)
  | 0, _ => none
  | fuel + 1, s =>
    match s.tokens with
    | .alias name :: rest =>
      (s.names.lookup name).map fun slot => (.alias slot, { s.grow 1 with tokens := rest })
    | tokens =>
      let (p, rest) := Properties.read tokens
      match s.fullTag? p.tag with
      | none => none
      | some tag =>
        let number := s.size
        let collect (r : Option (Node × Composer)) : Option (Node × Composer) :=
          r.map fun (n, s) => (n, s.leave p.anchor number n)
        let scalar (n : Node) (rest : List Token) : Option (Node × Composer) :=
          some (n, (s.enter p.anchor rest 1).leave p.anchor number n)
        match rest with
        | .blockEntry :: _ =>
          if indentless then collect (indentlessItems? fuel [] (s.enter p.anchor rest 2))
          else if p.anchor.isSome || tag.isSome then scalar (.scalar tag "" .plain) rest
          else none
        | .scalar text style :: more =>
          scalar (.scalar (scalarTag tag) text style) more
        | .flowSequenceStart :: more =>
          collect (flowItems? fuel true [] (s.enter p.anchor more 2))
        | .flowMappingStart :: more =>
          collect (flowEntries? fuel true [] (s.enter p.anchor more 2))
        | .blockSequenceStart :: more =>
          if block then collect (blockItems? fuel [] (s.enter p.anchor more 2))
          else if p.anchor.isSome || tag.isSome then scalar (.scalar tag "" .plain) rest
          else none
        | .blockMappingStart :: more =>
          if block then collect (blockEntries? fuel [] (s.enter p.anchor more 2))
          else if p.anchor.isSome || tag.isSome then scalar (.scalar tag "" .plain) rest
          else none
        | _ =>
          if p.anchor.isSome || tag.isSome then scalar (.scalar tag "" .plain) rest else none

def blockItems? : Nat → List Node → Composer → Option (Node × Composer)
  | 0, _, _ => none
  | fuel + 1, items, s =>
    match s.tokens with
    | .blockEnd :: rest => some (.sequence items.reverse, { s with tokens := rest })
    | .blockEntry :: rest =>
      let s := { s with tokens := rest }
      let item := if endsBlockNode false rest then some s.empty else node? true false fuel s
      item.bind fun (n, s) => blockItems? fuel (n :: items) s
    | _ => none

/-- Reads the items of a sequence that is not indented. -/
def indentlessItems? : Nat → List Node → Composer → Option (Node × Composer)
  | 0, _, _ => none
  | fuel + 1, items, s =>
    match s.tokens with
    | .blockEntry :: rest =>
      let s := { s with tokens := rest }
      let item := if endsBlockNode true rest then some s.empty else node? true false fuel s
      item.bind fun (n, s) => indentlessItems? fuel (n :: items) s
    | _ => some (.sequence items.reverse, s)

def blockEntries? : Nat → List (Node × Node) → Composer → Option (Node × Composer)
  | 0, _, _ => none
  | fuel + 1, entries, s =>
    match s.tokens with
    | .blockEnd :: rest => some (.mapping entries.reverse, { s with tokens := rest })
    | .key :: rest =>
      let s := { s with tokens := rest }
      let key := if endsMappingNode rest then some s.empty else node? true true fuel s
      key.bind fun (k, s) =>
        let value := match s.tokens with
          | .value :: rest =>
            let s := { s with tokens := rest }
            if endsMappingNode rest then some s.empty else node? true true fuel s
          | _ => some s.empty
        value.bind fun (v, s) => blockEntries? fuel ((k, v) :: entries) s
    | _ => none

/-- Reads the items between brackets. An item with a key is a mapping of one entry. -/
def flowItems? : Nat → Bool → List Node → Composer → Option (Node × Composer)
  | 0, _, _, _ => none
  | fuel + 1, first, items, s =>
    match s.tokens with
    | .flowSequenceEnd :: rest => some (.sequence items.reverse, { s with tokens := rest })
    | tokens =>
      let tokens := if first then some tokens else match tokens with
        | .flowEntry :: rest => some rest
        | _ => none
      match tokens with
      | none => none
      | some (.flowSequenceEnd :: rest) =>
        some (.sequence items.reverse, { s with tokens := rest })
      | some (.key :: rest) =>
        (flowPair? fuel { s.grow 2 with tokens := rest }).bind fun (n, s) =>
          flowItems? fuel false (n :: items) s
      | some rest =>
        (node? false false fuel { s with tokens := rest }).bind fun (n, s) =>
          flowItems? fuel false (n :: items) s

/-- Reads the entry of an item with a key. Where nothing is written for the key, the token after it
is taken for its end. -/
def flowPair? : Nat → Composer → Option (Node × Composer)
  | 0, _ => none
  | fuel + 1, s =>
    let absent := match s.tokens with
      | .value :: _ => true
      | tokens => endsFlowNode .flowSequenceEnd tokens
    let key :=
      if absent then some { s with tokens := s.tokens.tail }.empty else node? false false fuel s
    key.bind fun (k, s) =>
      let value := match s.tokens with
        | .value :: rest =>
          let s := { s with tokens := rest }
          if endsFlowNode .flowSequenceEnd rest then some s.empty else node? false false fuel s
        | _ => some s.empty
      value.map fun (v, s) => (.mapping [(k, v)], s)

def flowEntries? : Nat → Bool → List (Node × Node) → Composer → Option (Node × Composer)
  | 0, _, _, _ => none
  | fuel + 1, first, entries, s =>
    match s.tokens with
    | .flowMappingEnd :: rest => some (.mapping entries.reverse, { s with tokens := rest })
    | tokens =>
      let tokens := if first then some tokens else match tokens with
        | .flowEntry :: rest => some rest
        | _ => none
      match tokens with
      | none => none
      | some (.flowMappingEnd :: rest) =>
        some (.mapping entries.reverse, { s with tokens := rest })
      | some (.key :: rest) =>
        let s := { s with tokens := rest }
        let absent := match rest with
          | .value :: _ => true
          | tokens => endsFlowNode .flowMappingEnd tokens
        let key := if absent then some s.empty else node? false false fuel s
        key.bind fun (k, s) =>
          let value := match s.tokens with
            | .value :: rest =>
              let s := { s with tokens := rest }
              if endsFlowNode .flowMappingEnd rest then some s.empty else node? false false fuel s
            | _ => some s.empty
          value.bind fun (v, s) => flowEntries? fuel false ((k, v) :: entries) s
      | some rest =>
        (node? false false fuel { s with tokens := rest }).bind fun (k, s) =>
          let (v, s) := s.empty
          flowEntries? fuel false ((k, v) :: entries) s

end

def standardPrefixes : List (String × String) := [("!", "!"), ("!!", "tag:yaml.org,2002:")]

/-- Reads the directives of a document. A handle has one prefix, and there is one version at most. -/
def directives? (versioned : Bool) (handles : List (String × String)) :
    List Token → Option (List (String × String) × List Token)
  | .version major minor :: rest =>
    if versioned || major != 1 || (minor != 1 && minor != 2) then none
    else directives? true handles rest
  | .tagPrefix handle full :: rest =>
    if (handles.lookup handle).isSome then none
    else directives? versioned ((handle, full) :: handles) rest
  | rest => some (handles, rest)

def endsDocument : List Token → Bool
  | [] => true
  | .documentStart :: _ => true
  | .documentEnd :: _ => true
  | .version .. :: _ => true
  | .tagPrefix .. :: _ => true
  | _ => false

def content? (absent : Bool) (prefixes : List (String × String)) (tokens : List Token) :
    Option (Document × List Token) :=
  let s : Composer := ⟨tokens, 0, [], [], [], prefixes ++ standardPrefixes⟩
  let root :=
    if absent && endsDocument tokens then some s.empty
    else node? true false (3 * tokens.length + 10) s
  root.map fun (n, s) => (⟨n, s.slots, s.anchored, s.size⟩, s.tokens)

/-- Reads the documents that are left. All but the first begin with a marker; the first one needs a
marker only if there are directives. -/
def documentsFrom? : Nat → Bool → List Token → Option (List Document)
  | 0, _, _ => none
  | fuel + 1, first, tokens =>
    let tokens := if first then tokens else tokens.dropWhile (· = .documentEnd)
    match tokens with
    | [] => some []
    | tokens =>
      let read : Option (Document × List Token) :=
        match directives? false [] tokens with
        | some (prefixes, .documentStart :: rest) => content? true prefixes rest
        | some (_, rest) =>
          if first && rest.length = tokens.length then content? false [] rest else none
        | none => none
      read.bind fun (d, rest) =>
        let rest := match rest with
          | .documentEnd :: rest => rest
          | rest => rest
        (documentsFrom? fuel false rest).map (d :: ·)

def documents? (text : String) : Option (List Document) :=
  (tokens? text).bind fun tokens => documentsFrom? (tokens.length + 1) true tokens

end AlertRouting.Yaml
