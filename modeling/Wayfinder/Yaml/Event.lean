import Wayfinder.Yaml.Token

/-! The events of a document: nodes in the order in which they start, collections with an event at
each end. A missing node is an empty plain scalar. -/
namespace Wayfinder.Yaml

structure Properties where
  anchor : Option String := none
  tag : Option String := none
deriving Repr

inductive Event where
  | alias (name : String)
  | scalar (props : Properties) (text : String) (style : Style)
  | sequenceStart (props : Properties)
  | mappingStart (props : Properties)
  | collectionEnd
deriving Repr

def Event.empty : Event := .scalar {} "" .plain

structure NodePlace where
  block : Bool
  /-- A sequence may start here at the column of its parent. -/
  indentless : Bool

def NodePlace.inBlock : NodePlace := ⟨true, false⟩
def NodePlace.inMapping : NodePlace := ⟨true, true⟩
def NodePlace.inFlow : NodePlace := ⟨false, false⟩

abbrev TagPrefixes := List (String × String)

def standardPrefixes : TagPrefixes := [("!", "!"), ("!!", "tag:yaml.org,2002:")]

def expandTag? (prefixes : TagPrefixes) (handle suffix : String) : Option String :=
  if handle.isEmpty then some suffix
  else (prefixes.lookup handle).map (· ++ suffix)

def takeProperties (prefixes : TagPrefixes) : List Token → Option (Properties × List Token)
  | .anchor a :: .tag h s :: rest => do return (⟨some a, some (← expandTag? prefixes h s)⟩, rest)
  | .tag h s :: .anchor a :: rest => do return (⟨some a, some (← expandTag? prefixes h s)⟩, rest)
  | .anchor a :: rest => some (⟨some a, none⟩, rest)
  | .tag h s :: rest => do return (⟨none, some (← expandTag? prefixes h s)⟩, rest)
  | rest => some ({}, rest)

/-- A lone exclamation mark leaves a scalar without a tag. -/
def Properties.ofScalar (props : Properties) : Properties :=
  if props.tag = some "!" then { props with tag := none } else props

abbrev Taken := Option (List Event × List Token)

def Taken.after (events : List Event) (t : Taken) : Taken :=
  t.map fun (es, ts) => (events ++ es, ts)

variable (prefixes : TagPrefixes)

mutual
def takeNode : Nat → NodePlace → List Token → Taken
  | 0, _, _ => none
  | _, _, .alias name :: rest => some ([.alias name], rest)
  | fuel + 1, place, tokens => do
    let (props, tokens) ← takeProperties prefixes tokens
    match tokens with
    | .blockEntry :: _ =>
      if place.indentless then Taken.after [.sequenceStart props] (takeIndentless fuel tokens)
      else if props.anchor.isSome || props.tag.isSome then some ([.scalar props "" .plain], tokens)
      else none
    | .scalar text style :: rest => some ([.scalar props.ofScalar text style], rest)
    | .flowSequenceStart :: rest =>
      Taken.after [.sequenceStart props] (takeFlowSequence fuel true rest)
    | .flowMappingStart :: rest =>
      Taken.after [.mappingStart props] (takeFlowMapping fuel true rest)
    | tokens =>
      match place.block, tokens with
      | true, .blockSequenceStart :: rest =>
        Taken.after [.sequenceStart props] (takeBlockSequence fuel rest)
      | true, .blockMappingStart :: rest =>
        Taken.after [.mappingStart props] (takeBlockMapping fuel rest)
      | _, tokens =>
        if props.anchor.isSome || props.tag.isSome then some ([.scalar props "" .plain], tokens)
        else none

def takeBlockSequence : Nat → List Token → Taken
  | 0, _ => none
  | fuel + 1, tokens =>
    match tokens with
    | .blockEntry :: rest =>
      match rest with
      | .blockEntry :: _ | .blockEnd :: _ =>
        Taken.after [.empty] (takeBlockSequence fuel rest)
      | _ => do
        let (node, rest) ← takeNode fuel .inBlock rest
        Taken.after node (takeBlockSequence fuel rest)
    | .blockEnd :: rest => some ([.collectionEnd], rest)
    | _ => none

def takeIndentless : Nat → List Token → Taken
  | 0, _ => none
  | fuel + 1, tokens =>
    match tokens with
    | .blockEntry :: rest =>
      match rest with
      | .blockEntry :: _ | .key :: _ | .value :: _ | .blockEnd :: _ =>
        Taken.after [.empty] (takeIndentless fuel rest)
      | _ => do
        let (node, rest) ← takeNode fuel .inBlock rest
        Taken.after node (takeIndentless fuel rest)
    | _ => some ([.collectionEnd], tokens)

def takeBlockMapping : Nat → List Token → Taken
  | 0, _ => none
  | fuel + 1, tokens =>
    match tokens with
    | .key :: rest => do
      let (key, rest) ← match rest with
        | .key :: _ | .value :: _ | .blockEnd :: _ => some ([.empty], rest)
        | _ => takeNode fuel .inMapping rest
      let (value, rest) ← match rest with
        | .value :: rest =>
          match rest with
          | .key :: _ | .value :: _ | .blockEnd :: _ => some ([.empty], rest)
          | _ => takeNode fuel .inMapping rest
        | _ => some ([.empty], rest)
      Taken.after (key ++ value) (takeBlockMapping fuel rest)
    | .blockEnd :: rest => some ([.collectionEnd], rest)
    | _ => none

/-- `first` says that no entry has been taken yet. -/
def takeFlowSequence : Nat → Bool → List Token → Taken
  | 0, _, _ => none
  | fuel + 1, first, tokens =>
    match tokens with
    | .flowSequenceEnd :: rest => some ([.collectionEnd], rest)
    | tokens => do
      let tokens ← if first then some tokens else
        match tokens with
        | .flowEntry :: rest => some rest
        | _ => none
      match tokens with
      | .flowSequenceEnd :: rest => return ([.collectionEnd], rest)
      | .key :: rest =>
        let (pair, rest) ← takeFlowPair fuel rest
        Taken.after ([.mappingStart {}] ++ pair ++ [.collectionEnd])
          (takeFlowSequence fuel false rest)
      | tokens =>
        let (node, rest) ← takeNode fuel .inFlow tokens
        Taken.after node (takeFlowSequence fuel false rest)

/-- A single pair within a flow sequence. Where its key is missing, the token that stands in its
place is dropped. -/
def takeFlowPair : Nat → List Token → Taken
  | 0, _ => none
  | fuel + 1, tokens => do
    let (key, rest) ← match tokens with
      | .value :: rest | .flowEntry :: rest | .flowSequenceEnd :: rest => some ([.empty], rest)
      | _ => takeNode fuel .inFlow tokens
    let (value, rest) ← match rest with
      | .value :: rest =>
        match rest with
        | .flowEntry :: _ | .flowSequenceEnd :: _ => some ([.empty], rest)
        | _ => takeNode fuel .inFlow rest
      | _ => some ([.empty], rest)
    return (key ++ value, rest)

def takeFlowMapping : Nat → Bool → List Token → Taken
  | 0, _, _ => none
  | fuel + 1, first, tokens =>
    match tokens with
    | .flowMappingEnd :: rest => some ([.collectionEnd], rest)
    | tokens => do
      let tokens ← if first then some tokens else
        match tokens with
        | .flowEntry :: rest => some rest
        | _ => none
      match tokens with
      | .flowMappingEnd :: rest => return ([.collectionEnd], rest)
      | .key :: rest =>
        let (key, rest) ← match rest with
          | .value :: _ | .flowEntry :: _ | .flowMappingEnd :: _ => some ([.empty], rest)
          | _ => takeNode fuel .inFlow rest
        let (value, rest) ← match rest with
          | .value :: rest =>
            match rest with
            | .flowEntry :: _ | .flowMappingEnd :: _ => some ([.empty], rest)
            | _ => takeNode fuel .inFlow rest
          | _ => some ([.empty], rest)
        Taken.after (key ++ value) (takeFlowMapping fuel false rest)
      | tokens =>
        let (node, rest) ← takeNode fuel .inFlow tokens
        Taken.after (node ++ [.empty]) (takeFlowMapping fuel false rest)
end

/-- The directives before a document: at most one version, no handle twice. -/
def takeDirectives (version : Bool) (own : TagPrefixes) :
    List Token → Option (TagPrefixes × List Token)
  | .version major minor :: rest =>
    if version || major != 1 || !(minor == 1 || minor == 2) then none
    else takeDirectives true own rest
  | .tagPrefix handle expansion :: rest =>
    if (own.lookup handle).isSome then none
    else takeDirectives version ((handle, expansion) :: own) rest
  | rest => some (own ++ standardPrefixes, rest)

/-- The one document of a stream: its events, none when the stream is empty. A stream of several
documents is refused. -/
def events? (tokens : List Token) : Option (List Event) := do
  let fuel := 2 * tokens.length + 2
  let (events, rest) ← match tokens with
    | [] => some ([], [])
    | .version _ _ :: _ | .tagPrefix _ _ :: _ | .documentStart :: _ => do
      let (prefixes, rest) ← takeDirectives false [] tokens
      match rest with
      | .documentStart :: rest =>
        match rest with
        | [] | .version _ _ :: _ | .tagPrefix _ _ :: _ | .documentStart :: _ | .documentEnd :: _ =>
          some ([.empty], rest)
        | _ => takeNode prefixes fuel .inBlock rest
      | _ => none
    | _ => takeNode standardPrefixes fuel .inBlock tokens
  let rest := rest.dropWhile (· == .documentEnd)
  if rest.isEmpty then return events else none

end Wayfinder.Yaml
