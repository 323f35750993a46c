import AgentProbe.Syntax.Grammar

set_option autoImplicit false

/-!
Going on after a mistake.

When a statement cannot be read, some of its tokens around the stop are passed over, or an operand
is taken for granted, so that reading can go on.  Every repair has a cost that grows with the tokens
and bytes passed over; the cheapest one is made.  What is passed over becomes an error node.
-/

namespace AgentProbe.Syntax

inductive Patch where
  /-- A piece of text is passed over. -/
  | skip (piece : Skip)
  /-- A token is taken for granted. -/
  | grant (lexeme : Lexeme)
deriving Repr, Inhabited

def Patch.apply (patch : Patch) (state : State) : State :=
  match patch with
  | .skip piece =>
    let skips := (piece :: state.cursor.skips).mergeSort fun left right =>
      left.error.start ≤ right.error.start
    { state with cursor := { state.cursor with skips } }
  | .grant lexeme => { state with granted := lexeme :: state.granted }

def skipCost (tokens bytes lines : Nat) : Nat :=
  500 + 100 * tokens + bytes + 30 * lines

def grantCost : Nat := 610

/-- Tokens that may be taken for granted: an operand, a closing bracket, the end of a statement.  The
first that helps is taken. -/
def grantable : List Token :=
  [.operand, .operator ")", .operator "]", .operator "\x7d", .newline]

/-- The most nodes before a stop, and the most tokens after it, that a repair looks at: the longer
the text, the fewer. -/
def repairReach (length : Nat) : Nat :=
  if length ≤ 600 then 24 else if length ≤ 2000 then 12 else if length ≤ 6000 then 6 else 3

/-- The most repairs of one text; after that the rest is passed over. -/
def repairLimit : Nat := 12

def hardKeywords : List String :=
  ["import", "from", "assert", "return", "del", "raise", "pass", "break", "continue", "global",
   "nonlocal", "if", "elif", "else", "for", "while", "try", "except", "finally", "with", "def",
   "class", "lambda", "and", "or", "not", "in", "is", "as", "yield"]

def State.parts (state : State) : Parts :=
  grammar (nesting state.cursor.rest.length)

def State.statement? (state : State) : Except Stop (Option (List Node × State)) :=
  let lexeme := state.cursor.next Parse.statementPlace
  if lexeme.token == .finish then .ok none
  else
    match Parse.statement state.parts lexeme { state with finished := [] } with
    | .ok (nodes, after) => .ok (some (nodes, after))
    | .error stop => .error stop

def visible (nodes : List Node) : List Node :=
  nodes.filter fun node => !node.kind.isBoundary

/-- The token on which a statement stopped.  In an open block, the end of the text inside brackets
is the end of the block. -/
def Stop.lookahead (stop : Stop) : Lexeme :=
  if stop.lexeme.token == .finish then
    let blockEnd := stop.lexeme.here.next { Place.anywhere with closer := false }
    if blockEnd.token == .dedent then
      let last := stop.lexeme.extras.getLast?.or stop.finished.head?
      let offset := (last.map Node.stop).getD blockEnd.start
      { blockEnd with start := offset, stop := offset, extras := stop.lexeme.extras }
    else stop.lexeme
  else stop.lexeme

mutual

def hasLeafAt (kind : Kind) (offset : Nat) : Node → Bool
  | .mk own start _ _ _ children => (own == kind && start == offset) || anyLeafAt kind offset children

def anyLeafAt (kind : Kind) (offset : Nat) : List Node → Bool
  | [] => false
  | node :: nodes => hasLeafAt kind offset node || anyLeafAt kind offset nodes

end

/-- Whether a token was read as a part of some nodes, given how far reading came.  A boundary counts
only if it was read as such at once; a keyword only if it was not read as a name. -/
def Lexeme.isReadIn (lexeme : Lexeme) (asKeyword : Bool) (nodes : List Node) (reached : Nat) :
    Bool :=
  match lexeme.token with
  | .finish => false
  | .dedent =>
    anyLeafAt (.boundary .blockEnd) lexeme.start nodes
      && !anyLeafAt (.boundary .lineEnd) lexeme.start nodes
  | .indent =>
    anyLeafAt (.boundary .blockStart) lexeme.start nodes
      && !anyLeafAt (.boundary .lineEnd) lexeme.start nodes
  | .word spelling =>
    reached > lexeme.start
      && !(asKeyword && hardKeywords.contains spelling
        && anyLeafAt .identifier lexeme.start nodes)
  | _ => reached > lexeme.start

/-- How far a finished statement reaches.  The token at which it stopped may also be the first of the
next statement, unless tokens were passed over: a line end right after those is not seen. -/
def Patch.reached (patch : Patch) (lexeme : Lexeme) (nodes : List Node) : Nat :=
  match patch, lexeme.token with
  | .grant _, _ => lexeme.start + 1
  | .skip _, .newline => lexeme.start + 1
  | .skip _, _ => (nodes.getLast?.map Node.stop).getD 0

/-- How a repaired statement reads up to a token: nothing if the token is not accepted, else the
cost of the mistake that remains. -/
def Patch.outcome (patch : Patch) (state : State) (lexeme : Lexeme) (asKeyword : Bool) :
    Option Nat :=
  match (patch.apply state).statement? with
  | .ok none => some 0
  | .ok (some (nodes, after)) =>
    if lexeme.isReadIn asKeyword nodes (patch.reached lexeme nodes) then
      let next := after.cursor.next Parse.statementPlace
      if next.token == .dedent then some (skipCost 1 0 0) else some 0
    else none
  | .error stop =>
    if lexeme.isReadIn asKeyword stop.finished stop.lexeme.start then
      let start := (stop.finished.getLast?.map Node.start).getD stop.lexeme.start
      some (skipCost ((visible stop.finished).length + 1) (stop.lexeme.stop - start) 0)
    else none

def Cursor.lineEnds (cursor : Cursor) (start stop : Nat) : Nat :=
  (Text.slice cursor.rest (start - cursor.offset) (stop - cursor.offset)).count '\n'

structure Offer where
  patch : Patch
  cost : Nat
  remaining : Nat
deriving Repr, Inhabited

def Offer.total (offer : Offer) : Nat :=
  offer.cost + offer.remaining

/-- The cheaper of two offers; the second of two that cost the same. -/
def Offer.cheaper (first second : Option Offer) : Option Offer :=
  match first, second with
  | none, _ => second
  | _, none => first
  | some left, some right => if left.total < right.total then first else second

mutual

def lastLeaves : Node → List Node → List Node
  | .mk kind start stop role missing children, others =>
    match children with
    | [] => .mk kind start stop role missing children :: others
    | first :: rest => lastLeavesOf (first :: rest) others

def lastLeavesOf : List Node → List Node → List Node
  | [], others => others
  | node :: nodes, others => lastLeavesOf nodes (lastLeaves node others)

end

def trailingBoundaries : List Node → Nat
  | [] => 0
  | node :: nodes =>
    let leaves := lastLeaves node []
    let boundaries := (leaves.takeWhile fun leaf => leaf.kind.isBoundary).length
    if boundaries == leaves.length then boundaries + trailingBoundaries nodes else boundaries

mutual

/-- The pieces of a node that a reader holds before it knows that the node has ended, last first, in
front of others: what is on the right edge is not yet put together. -/
def openEdge : Node → List Node → List Node
  | .mk kind start stop role missing children, others =>
    match children with
    | [] => .mk kind start stop role missing children :: others
    | first :: rest => openEdgeOf (first :: rest) others

def openEdgeOf : List Node → List Node → List Node
  | [], others => others
  | node :: nodes, others =>
    match nodes with
    | [] => openEdge node others
    | next :: rest => openEdgeOf (next :: rest) (node :: others)

end

/-- The repair that passes over some nodes, if it lets the next token in.  `before` are the nodes
that are kept, last first. -/
def Offer.skip? (state : State) (lexeme : Lexeme) (asKeyword : Bool) (before nodes : List Node)
    (indents : List Nat) : Option Offer :=
  match nodes with
  | [] => none
  | first :: _ =>
    let stop := (nodes.getLast?.map Node.stop).getD first.stop
    let children := visible nodes
    let trees := children.filter fun child =>
      child.kind != .comment && child.kind != .lineContinuation
    let error := Node.mk .error first.start stop none false children
    let patch := Patch.skip ⟨error, indents, trailingBoundaries before⟩
    (patch.outcome state lexeme asKeyword).map fun remaining =>
      { patch, remaining
        cost := skipCost trees.length (stop - first.start)
          (state.cursor.lineEnds first.start stop) }

/-- The nearest repair that passes over finished nodes, last first, and tokens skipped so far, and
lets the next token in. -/
def nearestSkip (state : State) (lexeme : Lexeme) (asKeyword : Bool) (indents : List Nat) :
    List Node → List Node → Option Offer
  | passed, [] => Offer.skip? state lexeme asKeyword [] passed indents
  | passed, node :: finished =>
    match Offer.skip? state lexeme asKeyword (node :: finished) passed indents with
    | some offer => some offer
    | none => nearestSkip state lexeme asKeyword indents (node :: passed) finished

def Lexeme.leaf (lexeme : Lexeme) : Node :=
  let kind := match lexeme.token with
    | .word spelling =>
      if hardKeywords.contains spelling then Kind.token spelling else .identifier
    | .integer => .integer
    | .float => .float
    | .operator spelling => .token spelling
    | .quote _ => .stringStart
    | .junk => .error
    | _ => .boundary .lineEnd
  Node.leaf kind lexeme.start lexeme.stop

/-- Repairs that pass over the token at the stop and further ones, up to the first token that can
be let in.  If a mistake remains even so, passing over the statement from its start up to a later
token is offered too.  `whole` is set when only that is sought. -/
def forwardSkips (state : State) (finished : List Node) (whole : Bool) :
    Nat → List Node → Lexeme → Option Offer
  | 0, _, _ => none
  | fuel + 1, passed, last =>
    let next := last.after.next Place.anywhere
    let passed := passed ++ [last.leaf] ++ next.extras
    let further (finished : List Node) (whole : Bool) (passed : List Node) : Option Offer :=
      if next.token == .finish then none
      else forwardSkips state finished whole fuel passed next
    match nearestSkip state next true last.after.indents passed finished with
    | none => further finished whole passed
    | some offer =>
      if offer.remaining == 0 then some offer
      else if whole then further finished whole passed
      else Offer.cheaper (some offer) (further [] true (finished.reverse ++ passed))

/-- The first token that helps when it is taken for granted at an offset, directly before the token
at which a statement stopped. -/
def grantOffer (state : State) (lexeme : Lexeme) (offset : Nat) : List Token → Option Offer
  | [] => none
  | token :: tokens =>
    let patch := Patch.grant
      { token, start := offset, stop := offset, extras := lexeme.extras, here := lexeme.here
        after := lexeme.here, missing := true }
    match patch.outcome state lexeme false with
    | some remaining => some ⟨patch, grantCost, remaining⟩
    | none => grantOffer state lexeme offset tokens

def Lexeme.changesContext (lexeme : Lexeme) : Bool :=
  match lexeme.token with
  | .indent => true
  | .dedent => true
  | .quote _ => true
  | _ => false

def State.offer? (state : State) (stop : Stop) : Option Offer :=
  let lexeme := stop.lookahead
  let reach := repairReach state.cursor.rest.length
  let finished := stop.finished.take reach
  let back :=
    if lexeme.token == .junk then none
    else nearestSkip state lexeme false lexeme.here.indents lexeme.extras finished
  let forward :=
    if lexeme.token == .finish || (back.isSome && lexeme.changesContext) then none
    else
      let pieces := match finished with
        | [] => []
        | last :: before => openEdge last before
      forwardSkips state pieces false reach lexeme.extras lexeme
  let granted :=
    match stop.finished with
    | [] => none
    | last :: _ =>
      if lexeme.token == .finish || lexeme.token == .junk || lexeme.isOp "=" || lexeme.isOp ":=" then
        none
      else grantOffer state lexeme last.stop grantable
  Offer.cheaper granted (Offer.cheaper back forward)

def State.restAsError (state : State) (stop : Stop) : Node :=
  let start := (stop.finished.getLast?.map Node.start).getD stop.lexeme.start
  Node.leaf .error start (state.cursor.offset + Text.bytes state.cursor.rest)

/-- The statements of a module from a state on, with repairs where they are needed.  `fuel` bounds
the statements and repairs together, `repairs` the repairs. -/
def State.statements : Nat → Nat → State → List Node → List Node × State
  | 0, _, state, nodes => (nodes, state)
  | fuel + 1, repairs, state, nodes =>
    match state.statement? with
    | .ok none =>
      let lexeme := state.cursor.next Parse.statementPlace
      (nodes ++ [Node.leaf (.boundary .lineEnd) lexeme.start lexeme.start],
        { state with extras := lexeme.extras.reverse ++ state.extras })
    | .ok (some (statement, after)) => statements fuel repairs after (nodes ++ statement)
    | .error stop =>
      match if repairs == 0 then none else state.offer? stop with
      | some offer => statements fuel (repairs - 1) (offer.patch.apply state) nodes
      | none =>
        let error := state.restAsError stop
        (nodes ++ [Node.leaf (.boundary .lineEnd) error.stop error.stop],
          { state with extras := error :: state.extras })

end AgentProbe.Syntax
