import EnvDoctor.Numeral.Whole
import EnvDoctor.Pattern.Escape
import EnvDoctor.Text.Identifier
import EnvDoctor.Text.Pieces

/-!
# Reading patterns

Alternatives are read as sequences of pieces; a repetition takes the last piece of its sequence.
Groups are read by recursion. Every call takes a token or is followed by one that does, so the
number of calls is bounded by a multiple of the number of tokens. What a pattern may not ask of
the matcher is found when all of it has been read.
-/

namespace EnvDoctor.Pattern

variable [CharacterNames]

/-- What a piece is, for the sake of a repetition that follows it. -/
inductive PieceKind where
  | anchor
  | repetition
  | other
  deriving DecidableEq, Repr

/-- A piece of a sequence. A group that neither keeps anything nor sets a mode is one piece of
several nodes. -/
structure Piece where
  nodes : List Node
  kind : PieceKind

def Piece.sequence (pieces : List Piece) : List Node :=
  (pieces.reverse.map Piece.nodes).flatten

def Piece.of (node : Node) : Piece :=
  match node with
  | .anchor _ => ⟨[node], .anchor⟩
  | _ => ⟨[node], .other⟩

def repeatLimit : Nat := 4294967295

inductive Flag where
  | ignoreCase
  | locale
  | multiline
  | dotAll
  | verbose
  | ascii
  | template
  | unicode
  deriving DecidableEq, Repr

def Flag.ofChar? : Char → Option Flag
  | 'i' => some ignoreCase
  | 'L' => some locale
  | 'm' => some multiline
  | 's' => some dotAll
  | 'x' => some verbose
  | 'a' => some ascii
  | 't' => some template
  | 'u' => some unicode
  | _ => none

def Flag.isType (f : Flag) : Bool :=
  f = ascii || f = locale || f = unicode

def groupLimit : Nat := 1073741823

def Mode.turnOn (m : Mode) : Flag → Mode
  | .ignoreCase => { m with ignoreCase := true }
  | .multiline => { m with multiline := true }
  | .dotAll => { m with dotAll := true }
  | .verbose => { m with verbose := true }
  | .ascii => { m with ascii := true }
  | .unicode => { m with ascii := false }
  | .locale | .template => m

def Mode.turnOff (m : Mode) : Flag → Mode
  | .ignoreCase => { m with ignoreCase := false }
  | .multiline => { m with multiline := false }
  | .dotAll => { m with dotAll := false }
  | .verbose => { m with verbose := false }
  | _ => m

def lookbehindLimit : Nat := 4294967295

/-- What a node, from the outside in, asks of the matcher in vain: a repetition where none is
admitted, or to look back over too many characters or over a varying number of them. -/
def Node.fault? (template : Bool) : Node → Option Cause
  | .empty | .one _ | .any _ | .anchor _ | .backref .. => none
  | .seq a b | .alt a b | .ifGroup _ a b => (a.fault? template).or (b.fault? template)
  | .group _ body | .atomic body | .look _ none body => body.fault? template
  | .rep _ _ preference body =>
    if template then some (.noRepetition preference) else body.fault? template
  | .look _ (some _) body =>
    let (least, most) := body.width
    if least > lookbehindLimit then some .lookbehindTooWide
    else if most ≠ some least then some .variableLookbehind
    else body.fault? template

namespace Read

def hyphen : Nat := '-'.toNat

/-- A class: its members up to the closing bracket, the first of which may itself be a bracket.
`start` is the position of the opening bracket. -/
def classItems (start : Nat) (items : List ClassItem) : Nat → Read (List ClassItem)
  | 0 => failAt start .unterminatedSet
  | fuel + 1 => do
    let some this ← next | failAt start .unterminatedSet
    if this = .char ']' && !items.isEmpty then return items
    let low ← match this with
      | .escape c => escapeInClass c
      | .char c => pure (.char (Text.codePoint c))
      | .dangling => failAt start .unterminatedSet
    if ← accept '-' then
      let some that ← next | failAt start .unterminatedSet
      if that = .char ']' then return items ++ [low, .char hyphen]
      let high ← match that with
        | .escape c => escapeInClass c
        | .char c => pure (.char (Text.codePoint c))
        | .dangling => failAt start .unterminatedSet
      let back := this.text.length + 1 + that.text.length
      match low, high with
      | .char a, .char b =>
        if b < a then failBack back (.badRange this.text that.text)
        classItems start (items ++ [.range a b]) fuel
      | _, _ => failBack back (.badRange this.text that.text)
    else classItems start (items ++ [low]) fuel

def charClass (mode : Mode) : Read Node := do
  let start := (← get).position - 1
  let negated ← accept '^'
  let items ← classItems start [] ((← get).tokens.length + 1)
  return .one ⟨negated, items.eraseDups, mode.ignoreCase, mode.ascii⟩

/-- A count of rounds; without digits it is zero. -/
def count (ds : List Char) : Read Nat := do
  match Numeral.read ds with
  | .error numeral => throw (.countTooLong numeral)
  | .ok n =>
    if n ≥ repeatLimit then throw .repetitionTooLarge
    return n

/-- The bounds in braces after the opening brace, or nothing if the braces hold no bounds. -/
def bounds? : Read (Option (Nat × Option Nat)) := do
  if (← peek) = some (.char '\x7d') then return none
  let start := (← get).position
  let low ← takeWhile Char.isDigit
  let high ← if ← accept ',' then takeWhile Char.isDigit else pure low
  unless ← accept '\x7d' do return none
  let least ← count low
  if high.isEmpty then return some (least, none)
  let most ← count high
  if most < least then failAt start .repeatOrder
  return some (least, some most)

def preference : Read Preference := do
  if ← accept '?' then return .lazy
  if ← accept '+' then return .possessive
  return .greedy

def repetition (start : Nat) (least : Nat) (most : Option Nat) : List Piece → Read (List Piece)
  | [] => failAt start .nothingToRepeat
  | piece :: rest => do
    match piece.kind with
    | .anchor => failAt start .nothingToRepeat
    | .repetition => failAt start .multipleRepeat
    | .other =>
      return ⟨[.rep least most (← preference) (.sequence piece.nodes)], .repetition⟩ :: rest

/-- The flags up to a character that ends them, and that character. `what` names the characters
that may end them. -/
def flags (on : Bool) (what : String) (ends : List Char) (taken : List Flag) (c : Char) :
    Nat → Read (List Flag × Char)
  | 0 => fail .unexpectedEnd
  | fuel + 1 => do
    let some flag := Flag.ofChar? c | failBack 1 .unknownFlag
    if on then
      if flag = .locale then
        fail (.badFlags "cannot use 'L' flag with a str pattern")
      if flag.isType && (taken.any fun f => f.isType && f ≠ flag) then
        fail (.badFlags "flags 'a', 'u' and 'L' are incompatible")
    else if flag.isType then
      fail (.badFlags "cannot turn off flags 'a', 'u' and 'L'")
    let some token ← next | fail (.missingAfterFlags what)
    match token with
    | .char d =>
      if ends.contains d then return (taken ++ [flag], d)
      if (Flag.ofChar? d).isNone then
        if Text.isLetter d then failBack 1 .unknownFlag
        else failBack 1 (.missingAfterFlags what)
      flags on what ends (taken ++ [flag]) d fuel
    | t => failBack t.text.length (.missingAfterFlags what)

/-- The flags of a group that begins with `c`: those turned on, those turned off, and whether they
are for the whole pattern. -/
def groupFlags (c : Char) : Read (List Flag × List Flag × Bool) := do
  let fuel := (← get).tokens.length + 1
  let (on, stop) ← if c = '-' then pure ([], '-') else flags true "-, : or )" [')', '-', ':'] [] c fuel
  if stop = ')' then return (on, [], true)
  if on.contains .template then failBack 1 (.badFlags "cannot turn on global flag")
  if stop = ':' then return (on, [], false)
  let some token ← next | fail (.missingAfterFlags "flag")
  match token with
  | .char d =>
    if (Flag.ofChar? d).isNone then
      if Text.isLetter d then failBack 1 .unknownFlag
      else failBack 1 (.missingAfterFlags "flag")
    let (off, _) ← flags false ":" [':'] [] d fuel
    if off.contains .template then failBack 1 (.badFlags "cannot turn off global flag")
    if on.any off.contains then failBack 1 (.badFlags "flag turned on and off")
    return (on, off, false)
  | t => failBack t.text.length (.missingAfterFlags "flag")

/-- Complains about a name of a group that has just been taken with its terminator. -/
def checkName (name : List Char) : Read Unit := do
  unless Text.isIdentifier name do failBack (name.length + 1) (.badName name)

def comment (start : Nat) : Nat → Read Unit
  | 0 => failAt start .unterminatedComment
  | fuel + 1 => do
    match ← next with
    | none => failAt start .unterminatedComment
    | some (.char ')') => return ()
    | some _ => comment start fuel

def skipLine : Nat → Read Unit
  | 0 => return ()
  | fuel + 1 => do
    match ← next with
    | none | some (.char '\n') => return ()
    | some _ => skipLine fuel

def namedReference (mode : Mode) : Read Node := do
  let name ← name ')' "group name"
  checkName name
  match (← get).names.lookup name with
  | none => failBack (name.length + 1) (.unknownName name)
  | some group =>
    match ← closedWidth? group with
    | none => failBack (name.length + 1) .openGroup
    | some (least, most) =>
      checkLookbehind group
      return .backref group mode.ignoreCase mode.ascii least most

def conditionGroup : Read Nat := do
  let name ← name ')' "group name"
  let back := name.length + 1
  if Text.isIdentifier name then
    match (← get).names.lookup name with
    | none => failBack back (.unknownName name)
    | some group => return group
  else
    match Numeral.ofText 10 name with
    | .error _ | .ok (.negSucc _) => failBack back (.badName name)
    | .ok (.ofNat 0) => failBack back .badGroupNumber
    | .ok (.ofNat group) =>
      if group ≥ groupLimit then failBack back (.invalidReference group)
      let position := (← get).position - back
      modify fun r =>
        if (r.conditions.lookup group).isSome then r
        else { r with conditions := r.conditions ++ [(group, position)] }
      return group

/-- The mode in which a piece of the outermost sequence is read: flags for the whole pattern take
effect at once. -/
def modeAt (nested : Bool) (mode : Mode) : Read Mode := do
  if nested then return mode else return (← get).mode

mutual

def alternatives (nested : Bool) (mode : Mode) (fuel : Nat) : Read (List Node) :=
  match fuel with
  | 0 => fail .unexpectedEnd
  | fuel + 1 => do
    let sequences ← branches nested mode true fuel
    return Node.choice (← modeAt nested mode) sequences

/-- Reads the sequences of alternatives. `start` tells that none has been read before them. -/
def branches (nested : Bool) (mode : Mode) (start : Bool) (fuel : Nat) : Read (List (List Node)) :=
  match fuel with
  | 0 => fail .unexpectedEnd
  | fuel + 1 => do
    let first ← sequence nested mode start [] fuel
    if ← accept '|' then return first :: (← branches nested mode false fuel)
    else return [first]

def sequence (nested : Bool) (mode : Mode) (start : Bool) (pieces : List Piece) (fuel : Nat) :
    Read (List Node) :=
  match fuel with
  | 0 => fail .unexpectedEnd
  | fuel + 1 => do
    let mode ← modeAt nested mode
    let some this ← peek | return Piece.sequence pieces
    if this = .char '|' || this = .char ')' then return Piece.sequence pieces
    let here := (← get).position
    let _ ← next
    let more (pieces : List Piece) := sequence nested mode start pieces fuel
    match this with
    | .dangling => failAt here .escapeAtEnd
    | .escape c => more (.of (← escape mode c) :: pieces)
    | .char c =>
      if mode.verbose && Text.isAsciiBlank c then more pieces
      else if mode.verbose && c = '#' then
        skipLine ((← get).tokens.length + 1)
        more pieces
      else
        match c with
        | '[' => more (.of (← charClass mode) :: pieces)
        | '.' => more (.of (.any mode.dotAll) :: pieces)
        | '^' =>
          more (.of (.anchor (if mode.multiline then .lineStart else .textStart)) :: pieces)
        | '$' =>
          more (.of (.anchor (if mode.multiline then .lineEnd else .lastLineEnd)) :: pieces)
        | '*' => more (← repetition here 0 none pieces)
        | '+' => more (← repetition here 1 none pieces)
        | '?' => more (← repetition here 0 (some 1) pieces)
        | '\x7b' =>
          let saved ← get
          match ← bounds? with
          | some (least, most) => more (← repetition here least most pieces)
          | none =>
            set saved
            more (.of (oneOf mode (.char c.toNat)) :: pieces)
        | '(' =>
          match ← group mode here (start && !nested && pieces.isEmpty) fuel with
          | some piece => more (piece :: pieces)
          | none => more pieces
        | _ => more (.of (oneOf mode (.char (Text.codePoint c))) :: pieces)

/-- Reads a group after its opening parenthesis, which stands at `here`. A comment and flags for
the whole pattern are no piece; the latter are admitted only if `mayFlag`. -/
def group (mode : Mode) (here : Nat) (mayFlag : Bool) (fuel : Nat) : Read (Option Piece) :=
  match fuel with
  | 0 => fail .unexpectedEnd
  | fuel + 1 => do
    let body (mode : Mode) : Read (List Node) := do
      let nodes ← alternatives true mode fuel
      unless ← accept ')' do failAt here .unterminatedGroup
      return nodes
    let capture (name : Option (List Char)) : Read (Option Piece) := do
      let number ← openGroup name
      let node := Node.sequence (← body mode)
      closeGroup number node
      return some (.of (.group (some number) node))
    let ahead (negated : Bool) : Read (Option Piece) := do
      return some (.of (.look negated none (.sequence (← body mode))))
    let behind (negated : Bool) : Read (Option Piece) := do
      let outer := (← get).lookbehindGroups
      if outer.isNone then
        let count ← groupCount
        modify fun r => { r with lookbehindGroups := some count }
      let node := Node.sequence (← alternatives true mode fuel)
      if outer.isNone then modify fun r => { r with lookbehindGroups := none }
      unless ← accept ')' do failAt here .unterminatedGroup
      return some (.of (.look negated (some node.width.1) node))
    unless ← accept '?' do return ← capture none
    let some token ← next | fail .unexpectedEnd
    match token with
    | .char 'P' =>
      if ← accept '<' then
        let name ← name '>' "group name"
        checkName name
        capture (some name)
      else if ← accept '=' then
        return some (.of (← namedReference mode))
      else
        let some t ← next | fail .unexpectedEnd
        failBack (t.text.length + 2) (.unknownExtension (['?', 'P'] ++ t.text))
    | .char ':' => return some ⟨← body mode, .other⟩
    | .char '#' =>
      comment here ((← get).tokens.length + 1)
      return none
    | .char '=' => ahead false
    | .char '!' => ahead true
    | .char '<' =>
      let some t ← next | fail .unexpectedEnd
      match t with
      | .char '=' => behind false
      | .char '!' => behind true
      | _ => failBack (t.text.length + 2) (.unknownExtension (['?', '<'] ++ t.text))
    | .char '(' =>
      let number ← conditionGroup
      checkLookbehind number
      let yes ← sequence true mode false [] fuel
      let no ← if ← accept '|' then
          let no ← sequence true mode false [] fuel
          if (← peek) = some (.char '|') then fail .tooManyBranches
          pure no
        else pure []
      unless ← accept ')' do failAt here .unterminatedGroup
      return some (.of (.ifGroup number (.sequence yes) (.sequence no)))
    | .char '>' => return some (.of (.atomic (.sequence (← body mode))))
    | .char c =>
      if c = '-' || (Flag.ofChar? c).isSome then
        let (on, off, whole) ← groupFlags c
        if whole then
          unless mayFlag do failAt here .lateGlobalFlags
          modify fun r =>
            { r with
              mode := on.foldl (fun m f => if f = .unicode then m else m.turnOn f) r.mode
              unicode := r.unicode || on.contains .unicode
              template := r.template || on.contains .template }
          return none
        else
          let mode := off.foldl Mode.turnOff (on.foldl Mode.turnOn mode)
          return some (.of (.group none (.sequence (← body mode))))
      else failBack 2 (.unknownExtension ['?', c])
    | t => failBack (t.text.length + 1) (.unknownExtension ('?' :: t.text))

end

def whole (fuel : Nat) : Read Node := do
  checkNext
  let nodes ← alternatives false {} fuel
  let r ← get
  if r.mode.ascii && r.unicode then throw .clashingFlags
  if r.tokens ≠ [] then fail .unbalancedParenthesis
  match r.conditions.find? fun c => c.1 > r.widths.length with
  | some (number, position) => failAt position (.invalidReference number)
  | none => pure ()
  let node := Node.sequence nodes
  match node.fault? r.template with
  | some cause => throw (.malformed cause none)
  | none => return node

end Read

def ofChars (s : List Char) : Except Fault (Node × Nat) := do
  let tokens := Token.scan s
  let (node, r) ← (Read.whole (4 * tokens.length + 8)).run { tokens, position := 0 }
  return (node, r.widths.length)

def compile (source : String) : Except Fault EnvDoctor.Pattern := do
  let (body, groups) ← ofChars source.toList
  return ⟨source, groups, body⟩

end EnvDoctor.Pattern
