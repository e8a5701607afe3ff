import StagedRuns.Expr.Token.Scan
import StagedRuns.Expr.Tree

/-!
Trees from tokens, by precedence: a choice binds loosest, then the five tiers of binary operators,
unary operators, and the selections behind an operand. Binary operators of one tier associate to
the left.

Every nested part and every operator chained to an operand counts against a depth, so a tree of
bounded height comes out of a text of any length. Each reading function gives the depth back as it
found it.
-/

namespace StagedRuns.Expr

structure Cursor where
  tokens : List Token
  depth : Nat

namespace Cursor

def peek (cursor : Cursor) : Token :=
  cursor.tokens.head?.getD .endOfInput

def advance (cursor : Cursor) : Cursor :=
  { cursor with tokens := cursor.tokens.tail }

def descend (cursor : Cursor) : Except SyntaxFault Cursor :=
  if cursor.depth < maxDepth then .ok { cursor with depth := cursor.depth + 1 }
  else .error .tooDeep

def restore (cursor : Cursor) (depth : Nat) : Cursor :=
  { cursor with depth }

def expect (cursor : Cursor) (wanted : Token) : Except SyntaxFault Cursor :=
  if cursor.peek = wanted then .ok cursor.advance
  else .error (.expected wanted cursor.peek)

def unexpected {α : Type} (cursor : Cursor) : Except SyntaxFault α :=
  .error (.unexpected cursor.peek)

/-- Reads the name of a field, for which the keyword `in` serves too. -/
def field (cursor : Cursor) : Except SyntaxFault (String × Cursor) :=
  match cursor.peek with
  | .name word => .ok (word, cursor.advance)
  | .within => .ok ("in", cursor.advance)
  | _ => cursor.unexpected

end Cursor

/-- A tier of binary operators, from the loosest to the tightest. -/
inductive Tier where
  | either
  | both
  | relation
  | sum
  | product
deriving DecidableEq, Repr

def Tier.tighter? : Tier → Option Tier
  | .either => some .both
  | .both => some .relation
  | .relation => some .sum
  | .sum => some .product
  | .product => none

def Tier.operator? : Tier → Token → Option BinaryOp
  | .either, .either => some .either
  | .both, .both => some .both
  | .relation, .equal => some .equal
  | .relation, .unequal => some .unequal
  | .relation, .less => some .less
  | .relation, .atMost => some .atMost
  | .relation, .greater => some .greater
  | .relation, .atLeast => some .atLeast
  | .relation, .within => some .within
  | .sum, .plus => some .add
  | .sum, .minus => some .subtract
  | .product, .star => some .multiply
  | .product, .slash => some .divide
  | .product, .percent => some .modulo
  | _, _ => none

def unaryOperator? : Token → Option UnaryOp
  | .not => some .not
  | .minus => some .negate
  | _ => none

def literal? : Token → Option Tree
  | .null => some .null
  | .true => some (.bool true)
  | .false => some (.bool false)
  | .number value => some (.number value)
  | .text content => some (.text content)
  | _ => none

mutual

/-- Reads a choice, or an operand of the loosest tier. Each call takes one unit of `fuel`; running
out of it counts as being too deep. -/
def readChoice : (fuel : Nat) → Cursor → Except SyntaxFault (Tree × Cursor)
  | 0, _ => .error .tooDeep
  | fuel + 1, start => do
      let cursor ← start.descend
      let (condition, cursor) ← readTier fuel .either cursor
      if cursor.peek = .question then do
        let (yes, cursor) ← readChoice fuel cursor.advance
        let cursor ← cursor.expect .colon
        let (no, cursor) ← readChoice fuel cursor
        .ok (.choice condition yes no, cursor.restore start.depth)
      else
        .ok (condition, cursor.restore start.depth)

def readTier : (fuel : Nat) → Tier → Cursor → Except SyntaxFault (Tree × Cursor)
  | 0, _, _ => .error .tooDeep
  | fuel + 1, tier, start => do
      let (first, cursor) ← readOperand fuel tier start
      let (tree, cursor) ← readChain fuel tier first cursor
      .ok (tree, cursor.restore start.depth)

def readOperand : (fuel : Nat) → Tier → Cursor → Except SyntaxFault (Tree × Cursor)
  | 0, _, _ => .error .tooDeep
  | fuel + 1, tier, cursor =>
      match tier.tighter? with
      | some tighter => readTier fuel tighter cursor
      | none => readUnary fuel cursor

def readChain : (fuel : Nat) → Tier → Tree → Cursor → Except SyntaxFault (Tree × Cursor)
  | 0, _, _, _ => .error .tooDeep
  | fuel + 1, tier, left, cursor =>
      match tier.operator? cursor.peek with
      | none => .ok (left, cursor)
      | some op => do
          let cursor ← cursor.advance.descend
          let (right, cursor) ← readOperand fuel tier cursor
          readChain fuel tier (.binary op left right) cursor

def readUnary : (fuel : Nat) → Cursor → Except SyntaxFault (Tree × Cursor)
  | 0, _ => .error .tooDeep
  | fuel + 1, start =>
      match unaryOperator? start.peek with
      | none => readSelected fuel start
      | some op => do
          let cursor ← start.advance.descend
          let (operand, cursor) ← readUnary fuel cursor
          .ok (.unary op operand, cursor.restore start.depth)

def readSelected : (fuel : Nat) → Cursor → Except SyntaxFault (Tree × Cursor)
  | 0, _ => .error .tooDeep
  | fuel + 1, start => do
      let (object, cursor) ← readPrimary fuel start
      let (tree, cursor) ← readSelections fuel object cursor
      .ok (tree, cursor.restore start.depth)

def readSelections : (fuel : Nat) → Tree → Cursor → Except SyntaxFault (Tree × Cursor)
  | 0, _, _ => .error .tooDeep
  | fuel + 1, object, cursor =>
      match cursor.peek with
      | .dot => do
          let cursor ← cursor.descend
          let (field, cursor) ← cursor.advance.field
          if cursor.peek = .openParen then do
            let (arguments, cursor) ← readArguments fuel .closeParen cursor.advance
            readSelections fuel (.method object field arguments) cursor
          else
            readSelections fuel (.member object field) cursor
      | .openBracket => do
          let cursor ← cursor.descend
          let (index, cursor) ← readChoice fuel cursor.advance
          let cursor ← cursor.expect .closeBracket
          readSelections fuel (.index object index) cursor
      | _ => .ok (object, cursor)

def readPrimary : (fuel : Nat) → Cursor → Except SyntaxFault (Tree × Cursor)
  | 0, _ => .error .tooDeep
  | fuel + 1, cursor =>
      match cursor.peek with
      | .name word =>
          let cursor := cursor.advance
          if cursor.peek = .openParen then do
            let (arguments, cursor) ← readArguments fuel .closeParen cursor.advance
            .ok (.call word arguments, cursor)
          else
            .ok (.name word, cursor)
      | .openParen => do
          let (tree, cursor) ← readChoice fuel cursor.advance
          let cursor ← cursor.expect .closeParen
          .ok (tree, cursor)
      | .openBracket => do
          let (items, cursor) ← readArguments fuel .closeBracket cursor.advance
          .ok (.list items, cursor)
      | token =>
          match literal? token with
          | some tree => .ok (tree, cursor.advance)
          | none => cursor.unexpected

def readArguments : (fuel : Nat) → (close : Token) → Cursor →
    Except SyntaxFault (List Tree × Cursor)
  | 0, _, _ => .error .tooDeep
  | fuel + 1, close, cursor =>
      if cursor.peek = close then .ok ([], cursor.advance)
      else readItems fuel close cursor

def readItems : (fuel : Nat) → (close : Token) → Cursor →
    Except SyntaxFault (List Tree × Cursor)
  | 0, _, _ => .error .tooDeep
  | fuel + 1, close, cursor => do
      let (item, cursor) ← readChoice fuel cursor
      if cursor.peek = close then .ok ([item], cursor.advance)
      else do
        let cursor ← cursor.expect .comma
        let (items, cursor) ← readItems fuel close cursor
        .ok (item :: items, cursor)

end

/-- Fuel for any list of tokens: a token is read after at most sixteen nested calls. -/
def parseFuel (tokens : List Token) : Nat :=
  16 * tokens.length + 16

def parseTokens (tokens : List Token) : Except SyntaxFault Tree := do
  let (tree, cursor) ← readChoice (parseFuel tokens) ⟨tokens, 0⟩
  if cursor.peek = .endOfInput then .ok tree else cursor.unexpected

def parse (text : String) : Except SyntaxFault Tree := do
  let tokens ← scan text
  parseTokens tokens

end StagedRuns.Expr
